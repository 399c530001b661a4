import RouterShell.Completion
import RouterShell.Proofs.Line.Typing

/-!
# What completers offer

A completer reads the text from the start of the arguments to the cursor. This module says what it
proposes for a plain text in terms of the finished words of the text and the word being typed.

## The model

`Offers` ties a completer to a function that gives the words offered behind the words that are there
already. What is proposed are those of them that extend the word being typed, written so that they can be
read back, in the place of exactly this word (`proposals`).

Completers are put together from simpler ones, and so are these functions: each way of making a completer
has one lemma. The completer of pairs passes over a value to the next name without looking at it, so what
it offers (`tupleWords`) depends on the names only. It can be told from the finished words alone, without the
text (`behindPairs`), even if these are not plain (`tupleCandidates_eq`).
-/

namespace RouterShell

open Text Line

/-- The proposals for those names that extend the typed word. -/
def proposals (typed : List Char) (names : List String) : List Candidate :=
  (names.filter fun name => name != "" && begins (String.ofList typed) name).map fun name =>
    ⟨String.ofList (quote name), byteLength typed⟩

theorem mem_proposals {typed : List Char} {names : List String} {c : Candidate} :
    c ∈ proposals typed names ↔ ∃ name ∈ names, name ≠ "" ∧
      begins (String.ofList typed) name = true ∧ c = ⟨String.ofList (quote name), byteLength typed⟩ := by
  simp only [proposals, List.mem_map, List.mem_filter, Bool.and_eq_true, bne_iff_ne]
  constructor
  · rintro ⟨name, ⟨hmem, hne, hbegins⟩, rfl⟩
    exact ⟨name, hmem, hne, hbegins, rfl⟩
  · rintro ⟨name, hmem, hne, hbegins, rfl⟩
    exact ⟨name, ⟨hmem, hne, hbegins⟩, rfl⟩

@[simp] theorem proposals_nil (typed : List Char) : proposals typed [] = [] := rfl

namespace Complete

variable {text : List Char}

/-- In a plain text the word being typed is what stands behind the last blank. -/
theorem partialWord_of_plain (h : Plain text) :
    partialWord text = (String.ofList (typedWord text), byteLength (typedWord text)) := by
  have htext := beforeTyped_append_typedWord text
  unfold partialWord
  rw [scan_eq_of_plain h]
  by_cases hnil : typedWord text = []
  · rw [if_pos hnil, List.append_nil, hnil]
    rw [hnil, List.append_nil] at htext
    by_cases hempty : text = []
    · rw [hempty]
      rfl
    · have hends := endsBlank_of_typed_nil hnil hempty
      simp only [Option.isNone_none, hends, Bool.and_self, if_true]
      split <;> rfl
  · have hends := endsBlank_of_typed hnil
    have hlength := byteLength_eq_typed text
    simp only [if_neg hnil, hends, Bool.and_false, List.getLast?_append_of_ne_nil _ (List.cons_ne_nil _ _),
      List.getLast?_singleton, Bool.false_eq_true, if_false, Prod.mk.injEq, true_and]
    omega

theorem words_of_plain (h : Plain text) (names : List String) :
    words text names = proposals (typedWord text) names := by
  rw [words, partialWord_of_plain h]
  rfl

theorem mem_words {names : List String} {c : Candidate} :
    c ∈ words text names ↔ ∃ name ∈ names, name ≠ "" ∧ begins (partialWord text).1 name = true ∧
      c = ⟨String.ofList (quote name), (partialWord text).2⟩ := by
  simp only [words, List.mem_map, List.mem_filter, Bool.and_eq_true, bne_iff_ne]
  constructor
  · rintro ⟨name, ⟨hmem, hne, hbegins⟩, rfl⟩
    exact ⟨name, hmem, hne, hbegins, rfl⟩
  · rintro ⟨name, hmem, hne, hbegins, rfl⟩
    exact ⟨name, ⟨hmem, hne, hbegins⟩, rfl⟩

/-! ### Behind pairs -/

section Behind

variable {params : SortedMap String Completer} {net : Network} {left : List String}

/-- The proposals behind words in pairs, for the word that is being typed there; `left` are the names not
used before them. -/
def behindPairs (params : SortedMap String Completer) (net : Network) (typed : List Char) :
    List String → List String → Logged (List Candidate)
  | left, [] => pure (proposals typed left)
  | left, [name] =>
    match params.find? name with
    | none => pure []
    | some value => if name ∈ left then value.candidates net typed else pure []
  | left, name :: _ :: args =>
    if name ∈ left then behindPairs params net typed (left.erase name) args else pure []

/-- Completion of a text goes by its finished words. The induction is on the number of names that are left, as
a pair uses up one of them. -/
theorem tupleCandidates_eq {text : List Char} (hleft : ∀ name ∈ left, ∃ value, params.find? name = some value)
    (h : Plain (typedWord text)) :
    tupleCandidates params net left text =
      behindPairs params net (typedWord text) left (finishedWords text) := by
  induction hlength : left.length using Nat.strong_induction_on generalizing left text with
  | _ n ih =>
    rw [tupleCandidates]
    cases hcut : cutAtBlank (trimStart text) with
    | none =>
      obtain ⟨hwords, htyped⟩ := typedWord_of_cut hcut
      have hplain : Plain (trimStart text) := htyped ▸ h
      rw [hwords, behindPairs]
      dsimp only
      rw [words_of_plain hplain, (finishedWords_trimStart text).2]
    | some e =>
      obtain ⟨word, after⟩ := e
      obtain ⟨hwords, htyped⟩ := finishedWords_of_cut hcut
      rw [hwords, htyped]
      rw [htyped] at h
      dsimp only
      by_cases hname : String.ofList word ∈ left
      · obtain ⟨value, hvalue⟩ := hleft _ hname
        simp only [hname, hvalue, dif_pos, peerCandidates]
        cases hcut' : cutAtBlank (trimStart after) with
        | none =>
          obtain ⟨hwords', htyped'⟩ := typedWord_of_cut hcut'
          rw [hwords', behindPairs, hvalue]
          simp only [hname, if_true, htyped']
        | some e' =>
          obtain ⟨word', after'⟩ := e'
          obtain ⟨hwords', htyped'⟩ := finishedWords_of_cut hcut'
          obtain ⟨hrest, hrest'⟩ := finishedWords_trimStart after'
          have hshort : (left.erase (String.ofList word)).length < n := by
            rw [List.length_erase_of_mem hname, ← hlength]
            exact Nat.sub_lt (List.length_pos_of_mem hname) Nat.one_pos
          have hplain : Plain (typedWord (trimStart after')) := by rwa [hrest', ← htyped']
          have key := ih _ hshort (fun name hmem => hleft name (List.mem_of_mem_erase hmem)) hplain rfl
          rw [hwords', behindPairs, if_pos hname, htyped', ← hrest', ← hrest]
          exact key
      · simp only [hname, dif_neg, not_false_eq_true]
        cases finishedWords after with
        | nil =>
          rw [behindPairs]
          split
          · rfl
          · rw [if_neg hname]
        | cons first args => rw [behindPairs, if_neg hname]

end Behind

end Complete

namespace Completer

/-- Behind the words `args` of its arguments, the completer offers the words `f args`. -/
def Offers (c : Completer) (net : Network) (f : List String → List String) : Prop :=
  ∀ text, Plain text →
    (c.candidates net text).value = proposals (typedWord text) (f (finishedWords text))

section Offers

variable {c first rest : Completer} {net : Network} {f g : List String → List String} {text : List Char}

/-- A completer that offers the same words at every place. -/
theorem Offers.of_words {names : List String}
    (h : ∀ text, (c.candidates net text).value = Complete.words text names) :
    c.Offers net fun _ => names := by
  intro text hplain
  rw [h, Complete.words_of_plain hplain]

theorem offers_free : free.Offers net fun _ => [] := fun _ _ => rfl

theorem offers_suggesting (words : List String) : (suggesting words).Offers net fun _ => words :=
  .of_words fun _ => rfl

theorem offers_among (kind : String) (words : List String) :
    (among kind words).Offers net fun _ => words :=
  .of_words fun _ => rfl

theorem offers_links (physical : Bool) :
    (ofLinks physical).Offers net fun _ => (linkNames physical net).value.map Prod.fst :=
  .of_words fun _ => rfl

theorem offers_namespaces : namespaces.Offers net fun _ => (namespaceNames net).value :=
  .of_words fun _ => rfl

theorem offers_table (kind : String) (t : Lookup) : (table kind t).Offers net fun _ => t.names :=
  .of_words fun _ => rfl

theorem offers_address (family : Option Family) : (address family).Offers net fun _ => [] :=
  fun _ _ => rfl

theorem offers_net (family : Option Family) : (Completer.net family).Offers net fun _ => [] :=
  fun _ _ => rfl

/-- What is offered behind the first word, by a completer for the first word and one for the others. -/
def peerWords (f g : List String → List String) : List String → List String
  | [] => f []
  | _ :: args => g args

/-- Passing over the first word leads to the other completer. -/
theorem peerCandidates_of_plain {first rest : List Char → Logged (List Candidate)}
    (hfirst : ∀ text, Plain text →
      (first text).value = proposals (typedWord text) (f (finishedWords text)))
    (hrest : ∀ text, Plain text →
      (rest text).value = proposals (typedWord text) (g (finishedWords text)))
    (h : Plain text) :
    (Complete.peerCandidates first rest text).value =
      proposals (typedWord text) (peerWords f g (finishedWords text)) := by
  cases hcut : cutAtBlank (trimStart text) with
  | none =>
    obtain ⟨hwords, htyped⟩ := finishedWords_trimStart text
    simp only [Complete.peerCandidates, hcut]
    rw [hfirst _ h.trimmed, hwords, htyped, (typedWord_of_cut hcut).1, peerWords]
  | some e =>
    obtain ⟨word, after⟩ := e
    obtain ⟨hwords, htyped⟩ := finishedWords_of_cut hcut
    obtain ⟨hafter, hafter'⟩ := finishedWords_trimStart after
    simp only [Complete.peerCandidates, hcut]
    rw [hrest _ (h.of_cut hcut).trimmed, hafter, hafter', hwords, htyped, peerWords]

theorem Offers.peer (hfirst : first.Offers net f) (hrest : rest.Offers net g) :
    (Completer.peer first rest).Offers net (peerWords f g) :=
  fun _ h => peerCandidates_of_plain hfirst hrest h

/-! ### Pairs -/

/-- What is offered behind names and values in turn: a name that is left, or a value for the last
name. -/
def tupleWords (values : String → List String) : List String → List String → List String
  | left, [] => left
  | left, [name] => if name ∈ left then values name else []
  | left, name :: _ :: args => if name ∈ left then tupleWords values (left.erase name) args else []

/-- The induction is on the finished words, with fewer names left behind each pair of them. -/
theorem behindPairs_value {params : SortedMap String Completer} {values : String → List String}
    {typed : List Char} {left words : List String}
    (hparams : ∀ name ∈ left, ∃ value, params.find? name = some value ∧
      (value.candidates net typed).value = proposals typed (values name)) :
    (Complete.behindPairs params net typed left words).value =
      proposals typed (tupleWords values left words) := by
  induction left, words using tupleWords.induct with
  | case1 left => rfl
  | case2 left name hname =>
    obtain ⟨value, hfind, hvalue⟩ := hparams name hname
    simp only [Complete.behindPairs, hfind, tupleWords, if_pos hname, hvalue]
  | case3 left name hname =>
    rw [Complete.behindPairs, tupleWords, if_neg hname]
    split
    · rfl
    · rw [if_neg hname]
      rfl
  | case4 left name word args hname ih =>
    rw [Complete.behindPairs, tupleWords, if_pos hname, if_pos hname]
    exact ih fun other hother => hparams other (List.mem_of_mem_erase hother)
  | case5 left name word args hname =>
    rw [Complete.behindPairs, tupleWords, if_neg hname, if_neg hname]
    rfl

theorem tupleCandidates_of_plain {params : SortedMap String Completer} {values : String → List String}
    {left : List String}
    (hparams : ∀ name ∈ left, ∃ value, params.find? name = some value ∧
      value.Offers net fun _ => values name)
    (h : Plain text) :
    (Complete.tupleCandidates params net left text).value =
      proposals (typedWord text) (tupleWords values left (finishedWords text)) := by
  have htyped : Plain (typedWord text) := h.typedWord
  have hleft : ∀ name ∈ left, ∃ value, params.find? name = some value := by
    intro name hname
    obtain ⟨value, hfind, -⟩ := hparams name hname
    exact ⟨value, hfind⟩
  rw [Complete.tupleCandidates_eq hleft htyped]
  refine behindPairs_value fun name hname => ?_
  obtain ⟨value, hfind, hvalue⟩ := hparams name hname
  have hoffers := hvalue (typedWord text) htyped
  have hself : typedWord (typedWord text) = typedWord text := List.rtakeWhile_idempotent _ text
  rw [hself] at hoffers
  exact ⟨value, hfind, hoffers⟩

theorem Offers.tuple {params : SortedMap String Completer} {values : String → List String}
    (hparams : ∀ name ∈ params.keys, ∃ value, params.find? name = some value ∧
      value.Offers net fun _ => values name) :
    (Completer.tuple params).Offers net (tupleWords values params.keys) :=
  fun _ h => tupleCandidates_of_plain hparams h

end Offers

end Completer

end RouterShell
