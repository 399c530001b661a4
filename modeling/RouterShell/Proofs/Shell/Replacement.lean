import RouterShell.Proofs.Command.Welcome
import RouterShell.Proofs.Line.Cutting
import RouterShell.Proofs.Shell.Outcome

/-!
# All proposals replace the same word

An editor that shows a list of proposals needs one place in the line where any of them can be written. Each
proposal only says how many bytes before the cursor it replaces, and several functions have a hand in that
number: the line is cut behind a pipe, behind the words of a path, behind arguments and behind names of
parameters, at blanks and whatever is quoted there, and what is left is scanned anew.

## The model

`ProposedAtEnd` says that proposals come of some names and of the end of a text: a function was given a part
of the text that reaches to its end, and offered those of the names that extend the last word there. It does
not say what part. `firstWord` is the word of a text that has one word at most.

## What is proved

Each way of making a completer keeps to the end of the text (`peerCandidates_atEnd`, `tupleCandidates_atEnd`),
so every command does (`Offered.looksAtEnd`), and the way down the tree of commands
(`wordCandidates_atEnd`) and over the last pipe (`complete_atEnd`) does too. As the last token of a text is
the only one of its own part (`exists_typed`), `proposals_share_place` follows.
-/

namespace RouterShell

open Text Line CommandTree

/-- The word of a text that has one word at most, or nothing. -/
def firstWord (text : List Char) : String := ((scan text).tokens.head?.map Token.text).getD ""

/-- Proposals for the end of a text: those of some names that extend the last word of a part of it. -/
def ProposedAtEnd (text : List Char) (found : List Candidate) : Prop :=
  ∃ rest names, rest <:+ text ∧ found = Complete.words rest names

/-- A completer that, whatever it is given, proposes for the end of it. -/
def Completer.LooksAtEnd (c : Completer) : Prop :=
  ∀ net text, ProposedAtEnd text (c.candidates net text).value

/-! ### The end of a text -/

section AtEnd

variable {text rest word after : List Char} {found : List Candidate}

theorem ProposedAtEnd.words (text : List Char) (names : List String) :
    ProposedAtEnd text (Complete.words text names) :=
  ⟨text, names, List.suffix_rfl, rfl⟩

theorem ProposedAtEnd.nil (text : List Char) : ProposedAtEnd text [] := .words text []

/-- What is proposed for the end of a part is proposed for the end of the whole. -/
theorem ProposedAtEnd.of_suffix (h : ProposedAtEnd rest found) (hrest : rest <:+ text) :
    ProposedAtEnd text found := by
  obtain ⟨last, names, hlast, rfl⟩ := h
  exact ⟨last, names, hlast.trans hrest, rfl⟩

theorem trimStart_suffix (text : List Char) : trimStart text <:+ text := List.dropWhile_suffix isBlank

theorem suffix_of_cutAtBlank (h : cutAtBlank text = some (word, after)) : after <:+ text :=
  ⟨word, append_of_cutAtBlank h⟩

theorem dropBytes_suffix (n : Nat) (text : List Char) : dropBytes n text <:+ text :=
  ⟨takeBytes n text, takeBytes_append_dropBytes n text⟩

/-- The word being typed is the end of the text and the only word there, if it is not empty. -/
theorem exists_typed (text : List Char) :
    ∃ before typed, text = before ++ typed ∧ (scan typed).tokens.length ≤ 1 ∧
      Complete.partialWord text = (firstWord typed, byteLength typed) := by
  have hnothing : ∃ before typed, text = before ++ typed ∧ (scan typed).tokens.length ≤ 1 ∧
      ("", 0) = (firstWord typed, byteLength typed) :=
    ⟨text, [], (List.append_nil text).symm, Nat.zero_le 1, rfl⟩
  unfold Complete.partialWord
  dsimp only
  split
  · next t ht =>
    split
    · exact hnothing
    · obtain ⟨before, typed, htext, hstart, hscan⟩ := exists_last_word ht
      refine ⟨before, typed, htext, by rw [hscan]; rfl, ?_⟩
      rw [firstWord, hscan, htext, byteLength_append, hstart, Nat.add_sub_cancel_left]
      rfl
  · exact hnothing

/-- Proposals for the end of a text replace the same part of it, the word being typed there, which each of
them extends. -/
theorem ProposedAtEnd.exists_place (h : ProposedAtEnd text found) :
    ∃ before typed, text = before ++ typed ∧ (scan typed).tokens.length ≤ 1 ∧
      ∀ c ∈ found, c.replace = byteLength typed ∧
        ∃ w, w ≠ "" ∧ c.text = String.ofList (quote w) ∧ begins (firstWord typed) w = true := by
  obtain ⟨rest, names, ⟨front, rfl⟩, rfl⟩ := h
  obtain ⟨before, typed, hrest, hone, hpartial⟩ := exists_typed rest
  refine ⟨front ++ before, typed, by rw [hrest, List.append_assoc], hone, fun c hc => ?_⟩
  obtain ⟨w, -, hne, hbegins, rfl⟩ := Complete.mem_words.mp hc
  rw [hpartial] at hbegins ⊢
  exact ⟨rfl, w, hne, rfl, hbegins⟩

end AtEnd

/-! ### Completers -/

section Completers

variable {net : Network} {text : List Char} {c first rest : Completer}

theorem Completer.LooksAtEnd.of_words (names : Network → List String)
    (h : ∀ net text, (c.candidates net text).value = Complete.words text (names net)) : c.LooksAtEnd := by
  intro net text
  rw [h]
  exact .words text (names net)

theorem looksAtEnd_free : Completer.free.LooksAtEnd := fun _ text => .nil text

theorem looksAtEnd_suggesting (words : List String) : (Completer.suggesting words).LooksAtEnd :=
  .of_words (fun _ => words) fun _ _ => rfl

theorem looksAtEnd_among (kind : String) (words : List String) :
    (Completer.among kind words).LooksAtEnd :=
  .of_words (fun _ => words) fun _ _ => rfl

theorem looksAtEnd_links (physical : Bool) : (Completer.ofLinks physical).LooksAtEnd :=
  .of_words (fun net => (Completer.linkNames physical net).value.map Prod.fst) fun _ _ => rfl

theorem looksAtEnd_namespaces : Completer.namespaces.LooksAtEnd :=
  .of_words (fun net => (Completer.namespaceNames net).value) fun _ _ => rfl

theorem looksAtEnd_table (kind : String) (t : Lookup) : (Completer.table kind t).LooksAtEnd :=
  .of_words (fun _ => t.names) fun _ _ => rfl

theorem looksAtEnd_address (family : Option Family) : (Completer.address family).LooksAtEnd :=
  fun _ text => .nil text

theorem looksAtEnd_net (family : Option Family) : (Completer.net family).LooksAtEnd :=
  fun _ text => .nil text

/-- Behind a blank another completer takes over, with what is left of the text. -/
theorem peerCandidates_atEnd {first rest : List Char → Logged (List Candidate)}
    (hfirst : ∀ text, ProposedAtEnd text (first text).value)
    (hrest : ∀ text, ProposedAtEnd text (rest text).value) (text : List Char) :
    ProposedAtEnd text (Complete.peerCandidates first rest text).value := by
  unfold Complete.peerCandidates
  dsimp only
  split
  · exact (hfirst _).of_suffix (trimStart_suffix text)
  · next word after hcut =>
    have hafter := (suffix_of_cutAtBlank hcut).trans (trimStart_suffix text)
    exact (hrest _).of_suffix ((trimStart_suffix after).trans hafter)

/-- Names and values take turns, each with what is left of the text. The induction is on the number of names
that are left, as each turn uses up one of them. -/
theorem tupleCandidates_atEnd {params : SortedMap String Completer}
    (hparams : ∀ name value, params.find? name = some value → value.LooksAtEnd) (left : List String)
    (text : List Char) : ProposedAtEnd text (Complete.tupleCandidates params net left text).value := by
  induction hlength : left.length using Nat.strong_induction_on generalizing left text with
  | _ n ih =>
    rw [Complete.tupleCandidates]
    dsimp only
    split
    · exact (ProposedAtEnd.words _ left).of_suffix (trimStart_suffix text)
    · next name after hcut =>
      have hafter := (suffix_of_cutAtBlank hcut).trans (trimStart_suffix text)
      split
      · next hname =>
        have hshort : (left.erase (String.ofList name)).length < n := by
          rw [List.length_erase_of_mem hname, ← hlength]
          exact Nat.sub_lt (List.length_pos_of_mem hname) Nat.one_pos
        split
        · exact .nil text
        · next value hvalue =>
          have hturn := peerCandidates_atEnd (hparams _ value hvalue net)
            (fun rest => ih _ hshort (left.erase (String.ofList name)) rest rfl) after
          exact hturn.of_suffix hafter
      · exact .nil text

theorem Completer.LooksAtEnd.peer (hfirst : first.LooksAtEnd) (hrest : rest.LooksAtEnd) :
    (Completer.peer first rest).LooksAtEnd :=
  fun net text => peerCandidates_atEnd (hfirst net) (hrest net) text

theorem Completer.LooksAtEnd.tuple {params : SortedMap String Completer}
    (hparams : ∀ name value, params.find? name = some value → value.LooksAtEnd) :
    (Completer.tuple params).LooksAtEnd :=
  fun _ text => tupleCandidates_atEnd hparams params.keys text

end Completers

/-! ### Commands -/

section Commands

variable {tools : Toolbox} {lookups : Lookups}

theorem looksAtEnd_route (lookups : Lookups) (family : Family) :
    (Show.route lookups family).completer.LooksAtEnd := by
  refine .tuple fun name value hfind => ?_
  have hname := SortedMap.exists_find?_iff.mp ⟨value, hfind⟩
  rw [routeParams_eq] at hfind hname
  simp only [SortedMap.keys_cons, SortedMap.keys_nil, List.mem_cons, List.not_mem_nil, or_false] at hname
  rcases hname with rfl | rfl | rfl | rfl | rfl | rfl
  · exact Option.some.inj hfind ▸ looksAtEnd_links false
  · exact Option.some.inj hfind ▸ looksAtEnd_table _ _
  · exact Option.some.inj hfind ▸ looksAtEnd_table _ _
  · exact Option.some.inj hfind ▸ looksAtEnd_table _ _
  · exact Option.some.inj hfind ▸ looksAtEnd_net (some family)
  · exact Option.some.inj hfind ▸ looksAtEnd_address (some family)

theorem looksAtEnd_interface (ethtool : Bool) : (Show.interfaceCompleter ethtool).LooksAtEnd := by
  unfold Show.interfaceCompleter
  split
  · exact (looksAtEnd_links false).peer (looksAtEnd_suggesting _)
  · exact looksAtEnd_links false

/-- Every command proposes for the end of its arguments. -/
theorem Offered.looksAtEnd {path : List String} {c : Command} (h : Offered tools lookups path c) :
    c.completer.LooksAtEnd := by
  cases h with
  | interface => exact looksAtEnd_interface _
  | route _ family => exact looksAtEnd_route lookups family
  | monitor _ => exact (looksAtEnd_among _ _).peer (looksAtEnd_links false)
  | ifstateConfig _ | exit | namespaces | help => exact looksAtEnd_free
  | address _ _ | neighbour _ _ | rule _ _ | fdb | enable _ | disable _ => exact looksAtEnd_links false
  | renegotiate _ => exact looksAtEnd_links true
  | reset _ => exact (looksAtEnd_links true).peer ((looksAtEnd_suggesting _).peer looksAtEnd_free)
  | identify _ => exact (looksAtEnd_links true).peer looksAtEnd_free
  | netns => exact looksAtEnd_namespaces
  | tool _ _ => exact looksAtEnd_suggesting _

end Commands

namespace Shell

section Lines

variable {s : Shell} {lookups : Lookups}

/-- On the way down the tree every word is cut off the start of the text, and at a command its completer gets
the rest. The induction is on the turns. -/
theorem wordCandidates_atEnd {tools : Toolbox} (net : Network) (fuel : Nat) {q : List String}
    {level : Level Command} (hlevel : LevelAt (builtinCommands tools lookups) q level) (text : List Char) :
    ProposedAtEnd text (wordCandidates net fuel level text).value := by
  induction fuel generalizing q level text with
  | zero => exact .nil text
  | succ fuel ih =>
    rw [wordCandidates]
    split
    · exact .words text _
    · next word after hcut =>
      have hafter := (trimStart_suffix after).trans (suffix_of_cutAtBlank hcut)
      split
      · exact .nil text
      · next name children hword =>
        obtain ⟨hselects, hfind⟩ := hlevel.abbreviate_iff.mp hword
        have hname := (hlevel.follows_iff.mp hselects.2.1).1
        exact (ih (hlevel.child hname hfind) _).of_suffix hafter
      · next name c hword =>
        obtain ⟨hselects, hfind⟩ := hlevel.abbreviate_iff.mp hword
        have hname := (hlevel.follows_iff.mp hselects.2.1).1
        have hmem := ((hlevel.ends_of_leaf hname hfind).1 c).mpr rfl
        exact ((offered_of_mem hmem).looksAtEnd net _).of_suffix hafter

theorem filterCandidates_atEnd (t : FilterTable) (text : List Char) :
    ProposedAtEnd text (filterCandidates t text) := by
  unfold filterCandidates
  dsimp only
  split
  · exact (ProposedAtEnd.words _ _).of_suffix (trimStart_suffix text)
  · exact .nil text

/-- What is proposed for a line is proposed for the end of the text before the cursor. -/
theorem IsBuiltin.complete_atEnd (hs : s.IsBuiltin lookups) (net : Network) (line : List Char)
    (cursor : Nat) : ProposedAtEnd (takeBytes cursor line) (s.complete net line cursor).value := by
  unfold complete
  dsimp only
  split
  · exact (filterCandidates_atEnd s.filters _).of_suffix (dropBytes_suffix _ _)
  · exact (wordCandidates_atEnd net _ hs.levelAt _).of_suffix (trimStart_suffix _)

end Lines

/-- **All proposals of one completion can be written at one place.** A shell is built whatever tools and
tables there are. In every state of the network, for every line and every cursor, the text before the cursor
has an end that all proposals replace. This end is one word at most, finished or not, and each proposal is
the written form of a word that extends it. -/
theorem proposals_share_place (config : Config) (tools : Toolbox) (lookups : Lookups) (disk : Disk)
    (launcher : Launcher) :
    ∃ s, build config tools lookups disk launcher = .ok s ∧
      ∀ net line cursor, ∃ before typed, takeBytes cursor line = before ++ typed ∧
        (scan typed).tokens.length ≤ 1 ∧
        ∀ c ∈ (s.complete net line cursor).value, c.replace = byteLength typed ∧
          ∃ w, w ≠ "" ∧ c.text = String.ofList (quote w) ∧ begins (firstWord typed) w = true := by
  obtain ⟨s, hbuild, hs, -, -⟩ := exists_build config tools lookups disk launcher
  exact ⟨s, hbuild, fun net line cursor => (hs.complete_atEnd net line cursor).exists_place⟩

end Shell

end RouterShell
