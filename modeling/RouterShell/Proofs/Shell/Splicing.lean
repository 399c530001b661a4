import RouterShell.Proofs.Command.Welcome
import RouterShell.Proofs.Shell.Descent
import RouterShell.Proofs.Shell.Outcome

/-!
# Accepting a proposal

A proposal is accepted by writing its text into the line, in the place of as many bytes before the cursor
as it says. These bytes are counted in a part of the line only: what stands behind the last separating pipe,
behind the words of a command, or behind one of its arguments. The line that comes of it is read from its
start. This module says which words it then has.

## The model

`Proposes` collects what the commands of a shell propose for a plain text: a name of the level to which its
words lead, or a word that the command offers behind its arguments. `Candidate.splice` is the line with an
accepted proposal, and `settledTokens` are the words that it ought to leave alone.

## What is proved

An accepted proposal takes the place of the word being typed and leaves the other words as they are, except
right behind a separating pipe. The pipe is the last word of the line there, but for the filters it is none of
theirs, so they propose their names in the place of nothing. An accepted name is written to the pipe, and the
two are read as one word, which separates nothing. `accepted_words` says both.
-/

namespace RouterShell

open Text Line CommandTree

/-- The text before the cursor when a proposal for it is accepted. -/
def Candidate.splice (c : Candidate) (text : List Char) : List Char :=
  takeBytes (byteLength text - c.replace) text ++ c.text.toList

/-- A proposal for the word being typed takes its place. -/
theorem splice_typed (text : List Char) (w : String) :
    (⟨String.ofList (quote w), byteLength (typedWord text)⟩ : Candidate).splice text =
      beforeTyped text ++ quote w := by
  have htake := takeBytes_append (beforeTyped text) (typedWord text)
  rw [beforeTyped_append_typedWord] at htake
  dsimp only [Candidate.splice]
  rw [byteLength_eq_typed, Nat.add_sub_cancel, htake, String.toList_ofList]

/-- A proposal in the place of nothing is written behind the text. -/
theorem splice_behind (text : List Char) (w : String) :
    (⟨String.ofList (quote w), 0⟩ : Candidate).splice text = text ++ quote w := by
  rw [Candidate.splice, Nat.sub_zero, takeBytes_byteLength, String.toList_ofList]

namespace Shell

/-- The tokens of a text without the one being typed: a last token is still being typed unless a blank
stands behind it or it is a separating pipe. -/
def settledTokens (text : List Char) : List Token :=
  let tokens := (scan text).tokens
  if endsBlank text || tokens.getLast?.any Token.isPipe then tokens else tokens.dropLast

/-! ### What is proposed -/

/-- A word is proposed for a plain text by the commands. -/
inductive Proposes (s : Shell) (lookups : Lookups) (net : Network) (text : List Char) (w : String) :
    Prop where
  /-- It is a name at the level to which the finished words lead. -/
  | name {names : List String} {m : Level Command} :
      Descends s.commands.root (finishedWords text) names m → w ∈ m.keys → Proposes s lookups net text w
  /-- The finished words lead to a command, which offers it behind its arguments. -/
  | word {used args names : List String} {last name : String} {m : Level Command} {c : Command}
      {offered : List String → List String} :
      finishedWords text = used ++ last :: args → Descends s.commands.root used names m →
      abbreviate m last = some (name, .leaf c) → c.Welcomes net offered lookups.Misread →
      w ∈ offered args → Proposes s lookups net text w

section Proposals

variable {s : Shell} {lookups : Lookups} {net : Network} {text : List Char} {c : Candidate}

/-- What the commands propose goes on the word being typed, and takes its place. -/
theorem IsBuiltin.proposes (hs : s.IsBuiltin lookups) (h : Plain text)
    (hc : c ∈ (s.commandCandidates net text).value) :
    ∃ w, w ≠ "" ∧ begins (String.ofList (typedWord text)) w = true ∧
      c = ⟨String.ofList (quote w), byteLength (typedWord text)⟩ ∧ Proposes s lookups net text w := by
  have hcompletes := commandCandidates_completes s net h
  generalize s.commandCandidates net text = answer at hc hcompletes
  cases hcompletes with
  | level hway =>
    obtain ⟨w, hw, hne, hbegins, rfl⟩ := mem_proposals.mp hc
    exact ⟨w, hne, hbegins, rfl, .name hway hw⟩
  | nothing _ _ _ => exact absurd hc List.not_mem_nil
  | @arguments used args names last name m command hwords hway hleaf =>
    have hresolve := (hway.resolve_end last args).2 name command hleaf
    have hmem := hs.mem_of_resolve (by rw [hresolve])
    obtain ⟨offered, hwelcomes⟩ := (offered_of_mem hmem).welcomes net
    -- the completer gets the text behind the path, whose finished words are the arguments
    have hlength : used.length + 1 ≤ (finishedWords text).length := by
      rw [hwords, List.length_append, List.length_cons]
      omega
    obtain ⟨hafter, htyped⟩ := finishedWords_afterWords hlength
    have hargs : (finishedWords text).drop (used.length + 1) = args := by
      rw [hwords, ← List.singleton_append, ← List.append_assoc]
      exact List.drop_left' (by simp)
    rw [hwelcomes.offers _ (h.afterWords _), hafter, htyped, hargs] at hc
    obtain ⟨w, hw, hne, hbegins, rfl⟩ := mem_proposals.mp hc
    exact ⟨w, hne, hbegins, rfl, .word hwords hway hleaf hwelcomes hw⟩

/-- What the filters propose goes on the word being typed, and takes its place. -/
theorem mem_filterCandidates {t : FilterTable} (h : Plain text) (hc : c ∈ filterCandidates t text) :
    ∃ w, w ≠ "" ∧ begins (String.ofList (typedWord text)) w = true ∧
      c = ⟨String.ofList (quote w), byteLength (typedWord text)⟩ := by
  unfold filterCandidates at hc
  dsimp only at hc
  split at hc
  · rw [Complete.words_of_plain h.trimmed, (finishedWords_trimStart text).2] at hc
    obtain ⟨w, -, hne, hbegins, rfl⟩ := mem_proposals.mp hc
    exact ⟨w, hne, hbegins, rfl⟩
  · exact absurd hc List.not_mem_nil

end Proposals

/-! ### The last separating pipe -/

section Pipe

variable {text : List Char}

/-- A pipe that is the word being typed is the last separating one, and nothing stands behind it. -/
theorem lastPipe_of_typed (h : Plain text) (hpipe : typedWord text = ['|']) :
    lastPipe? (scan text).tokens = some (byteLength (beforeTyped text)) ∧
      dropBytes (byteLength (beforeTyped text) + 1) text = [] := by
  constructor
  · rw [scan_eq_of_plain h, hpipe, if_neg (List.cons_ne_nil _ _), lastPipe?, List.reverse_append,
      List.reverse_singleton, List.singleton_append, List.find?_cons_of_pos rfl]
    rfl
  · have hlength : byteLength (beforeTyped text) + 1 = byteLength text := by
      rw [byteLength_eq_typed text, hpipe]
      rfl
    rw [hlength, dropBytes_byteLength]

/-- Behind any other separating pipe a blank follows, so the word being typed is the same there. -/
theorem typedWord_of_lastPipe (h : Plain text) (hpipe : typedWord text ≠ ['|']) {start : Nat}
    (hlast : lastPipe? (scan text).tokens = some start) :
    Plain (dropBytes (start + 1) text) ∧
      typedWord (dropBytes (start + 1) text) = typedWord text := by
  obtain ⟨t, hfind, rfl⟩ := Option.map_eq_some_iff.mp hlast
  obtain ⟨tokens, hscan, -, hstand⟩ := scan_plain h
  rw [hscan] at hfind
  have hmem := List.mem_reverse.mp (List.mem_of_find?_eq_some hfind)
  obtain ⟨before, after, hin⟩ := hstand t hmem
  have htext := hin.text_eq
  rw [((isPipe_iff t).mp (List.find?_some hfind)).2] at htext
  have hstart : t.start + 1 = byteLength (before ++ ['|']) := by
    rw [hin.start_eq, byteLength_append, Nat.zero_add]
    rfl
  have hsplit : text = (before ++ ['|']) ++ after := by
    rw [htext, List.append_assoc]
    rfl
  have hdrop : dropBytes (t.start + 1) text = after := by
    rw [hstart, hsplit]
    exact dropBytes_append _ _
  have hne : after ≠ [] := by
    -- at the end of the text the pipe would be the word being typed
    rintro rfl
    rw [List.append_nil] at hsplit
    have hblank : ∀ c ∈ ['|'], isBlank c = false := by
      intro c hc
      rw [List.mem_singleton.mp hc]
      decide
    refine hpipe ?_
    rw [hsplit]
    exact (typed_of_append hin.wordOver hblank).2
  rw [hdrop]
  constructor
  · rw [hsplit] at h
    exact h.of_append_right
  · rw [hsplit]
    exact (typed_of_boundary hne hin.boundary _).2.symm

end Pipe

/-! ### The words afterwards -/

section Words

variable {text : List Char}

/-- Unless it is a separating pipe, the word being typed is what is not settled. -/
theorem settledTokens_eq (h : Plain text) (hpipe : typedWord text ≠ ['|']) :
    settledTokens text = (scan (beforeTyped text)).tokens := by
  have hscan := scan_eq_of_plain h
  by_cases htyped : typedWord text = []
  · rw [if_pos htyped, List.append_nil] at hscan
    by_cases hempty : text = []
    · subst hempty
      rfl
    · rw [settledTokens, endsBlank_of_typed_nil htyped hempty, Bool.true_or, if_pos rfl, hscan]
  · rw [if_neg htyped] at hscan
    have hword : (String.ofList (typedWord text) == "|") = false := by
      rw [beq_eq_false_iff_ne]
      intro heq
      exact hpipe (by rw [← String.toList_ofList (l := typedWord text), heq]; rfl)
    rw [settledTokens, hscan, endsBlank_of_typed htyped]
    simp [Token.isPipe, hword]

/-- A separating pipe is settled also if the cursor stands right behind it. -/
theorem settledTokens_pipe (h : Plain text) (hpipe : typedWord text = ['|']) :
    settledTokens text =
      (scan (beforeTyped text)).tokens ++ [⟨"|", false, byteLength (beforeTyped text)⟩] := by
  have hscan := scan_eq_of_plain h
  rw [hpipe, if_neg (List.cons_ne_nil _ _)] at hscan
  rw [settledTokens, hscan]
  simp [Token.isPipe]

/-- A word that is written in the place of the one being typed is the last token. -/
theorem tokenize_written (h : Plain text) {v m : List Char} {q : Bool} (hv : Word v m q) :
    tokenize (beforeTyped text ++ v) = .ok ((scan (beforeTyped text)).tokens ++
      [⟨String.ofList m, q, byteLength (beforeTyped text)⟩]) := by
  rw [tokenize, scan_append_word h.beforeTyped (wordOver_beforeTyped text) hv]
  rfl

/-- A word that is written to a pipe makes one word with it. -/
theorem word_pipe_quote (w : String) : Word ('|' :: quote w) ('|' :: w.toList) (needsQuotes w) :=
  .more (.plain (by decide) (by decide) (by decide) (by decide)) (word_quote w)

/-- A word that is written behind a pipe is read together with it. -/
theorem tokenize_behind_pipe (h : Plain text) (hpipe : typedWord text = ['|']) {w : String}
    (hne : w ≠ "") :
    ∃ t, tokenize ((⟨String.ofList (quote w), 0⟩ : Candidate).splice text) =
        .ok ((scan (beforeTyped text)).tokens ++ [t]) ∧
      t.text = "|" ++ w ∧ t.isPipe = false := by
  have hspliced : text ++ quote w = beforeTyped text ++ '|' :: quote w := by
    conv_lhs => rw [← beforeTyped_append_typedWord text, hpipe, List.append_assoc]
    rfl
  have hword : String.ofList ('|' :: w.toList) = "|" ++ w := by
    rw [← String.toList_inj, String.toList_ofList, String.toList_append]
    rfl
  refine ⟨⟨"|" ++ w, needsQuotes w, byteLength (beforeTyped text)⟩, ?_, rfl, ?_⟩
  · rw [splice_behind, hspliced, tokenize_written h (word_pipe_quote w), hword]
  · have hnot : "|" ++ w ≠ "|" := by
      rw [← hword, ne_eq, ← String.toList_inj, String.toList_ofList]
      simp [hne]
    simp [Token.isPipe, hnot]

/-- A written word is never read as a separating pipe. -/
theorem not_isPipe_of_quote (w : String) (start : Nat) :
    (⟨w, needsQuotes w, start⟩ : Token).isPipe = false := by
  by_cases hw : w = "|"
  · subst hw
    rfl
  · simp [Token.isPipe, hw]

end Words

/-! ### Accepting -/

section Accepted

variable {s : Shell} {lookups : Lookups} {net : Network} {line text : List Char} {cursor : Nat}
  {c : Candidate}

/-- Unless the cursor stands right behind a separating pipe, what is proposed goes on the word being typed,
and takes its place. -/
theorem IsBuiltin.eq_of_mem_complete (hs : s.IsBuiltin lookups) (htext : takeBytes cursor line = text)
    (h : Plain text) (hpipe : typedWord text ≠ ['|']) (hc : c ∈ (s.complete net line cursor).value) :
    ∃ w, w ≠ "" ∧ begins (String.ofList (typedWord text)) w = true ∧
      c = ⟨String.ofList (quote w), byteLength (typedWord text)⟩ := by
  rw [complete, htext] at hc
  split at hc
  · next start hlast =>
    obtain ⟨hplain, htyped⟩ := typedWord_of_lastPipe h hpipe hlast
    rw [← htyped]
    exact mem_filterCandidates hplain hc
  · obtain ⟨w, hne, hbegins, rfl, -⟩ := hs.proposes h hc
    exact ⟨w, hne, hbegins, rfl⟩

/-- Right behind a separating pipe, all filters are proposed, in the place of nothing. -/
theorem complete_of_pipe (hfilters : s.filters = .builtin) (htext : takeBytes cursor line = text)
    (h : Plain text) (hpipe : typedWord text = ['|']) :
    (s.complete net line cursor).value = [⟨"exclude", 0⟩, ⟨"include", 0⟩] := by
  obtain ⟨hlast, hrest⟩ := lastPipe_of_typed h hpipe
  rw [complete, htext]
  simp only [hlast, hrest, hfilters]
  rfl

theorem filters_of_build {config : Config} {tools : Toolbox} {disk : Disk} {launcher : Launcher}
    (h : build config tools lookups disk launcher = .ok s) : s.filters = .builtin := by
  unfold build at h
  split at h
  · obtain rfl := Except.ok.inj h
    rfl
  · cases h

end Accepted

/-- **Accepting a proposal keeps the words that are there, except a pipe right before the cursor.** A shell
is built whatever tools were found. In every state of the network and for every plain text before the
cursor, a proposal is a written word that goes on the one being typed; the line with it can be read, and it
has the settled words of the text and this word, which never separates anything.

Only where the cursor stands right behind a separating pipe, the names of both filters are proposed, and
each of them is written to the pipe: the pipe separates nothing any more, but begins the new word. -/
theorem accepted_words (config : Config) (tools : Toolbox) (lookups : Lookups) (disk : Disk)
    (launcher : Launcher) :
    ∃ s, build config tools lookups disk launcher = .ok s ∧
      ∀ net line cursor text, takeBytes cursor line = text → Plain text →
        (typedWord text ≠ ['|'] → ∀ c ∈ (s.complete net line cursor).value, ∃ w t,
          w ≠ "" ∧ begins (String.ofList (typedWord text)) w = true ∧ c.text = String.ofList (quote w) ∧
          tokenize (c.splice text) = .ok (settledTokens text ++ [t]) ∧
          t.text = w ∧ t.isPipe = false) ∧
        (typedWord text = ['|'] →
          (s.complete net line cursor).value = [⟨"exclude", 0⟩, ⟨"include", 0⟩] ∧
          ∃ before pipe, settledTokens text = before ++ [pipe] ∧ pipe.isPipe = true ∧
            ∀ c ∈ (s.complete net line cursor).value, ∃ t,
              tokenize (c.splice text) = .ok (before ++ [t]) ∧
              t.text = "|" ++ c.text ∧ t.isPipe = false) := by
  obtain ⟨s, hbuild, hs, -, -⟩ := exists_build config tools lookups disk launcher
  refine ⟨s, hbuild, fun net line cursor text htext h => ⟨fun hpipe c hc => ?_, fun hpipe => ?_⟩⟩
  · obtain ⟨w, hne, hbegins, rfl⟩ := hs.eq_of_mem_complete htext h hpipe hc
    refine ⟨w, ⟨w, needsQuotes w, byteLength (beforeTyped text)⟩, hne, hbegins, rfl, ?_, rfl,
      not_isPipe_of_quote w _⟩
    rw [splice_typed, tokenize_written h (word_quote w), String.ofList_toList, settledTokens_eq h hpipe]
  · have hcomplete : (s.complete net line cursor).value = [⟨"exclude", 0⟩, ⟨"include", 0⟩] :=
      complete_of_pipe (filters_of_build hbuild) htext h hpipe
    refine ⟨hcomplete, _, _, settledTokens_pipe h hpipe, rfl, fun c hc => ?_⟩
    rw [hcomplete, List.mem_cons, List.mem_singleton] at hc
    rcases hc with rfl | rfl
    · exact tokenize_behind_pipe h hpipe (w := "exclude") (by decide)
    · exact tokenize_behind_pipe h hpipe (w := "include") (by decide)

/-- Behind `show netns |` the name of a filter is proposed, but accepting it adds no word to the settled ones:
the name becomes a part of the last one. -/
theorem pipe_lost_in_proposal :
    ∃ s, bare = .ok s ∧
      ∀ net, ⟨"exclude", 0⟩ ∈ (s.complete net "show netns |".toList 12).value ∧
        ∀ t, tokenize ((⟨"exclude", 0⟩ : Candidate).splice "show netns |".toList) ≠
          .ok (settledTokens "show netns |".toList ++ [t]) := by
  obtain ⟨s, hbare, -⟩ := exists_bare
  refine ⟨s, hbare, fun net => ⟨?_, fun t ht => ?_⟩⟩
  · have hcomplete : (s.complete net "show netns |".toList 12).value = [⟨"exclude", 0⟩, ⟨"include", 0⟩] :=
      complete_of_pipe (filters_of_build hbare) rfl (by decide) (by decide)
    rw [hcomplete]
    exact List.mem_cons_self
  · have hsettled : (settledTokens "show netns |".toList).length = 3 := by decide
    have hspliced : tokenize ((⟨"exclude", 0⟩ : Candidate).splice "show netns |".toList) =
        .ok [⟨"show", false, 0⟩, ⟨"netns", false, 5⟩, ⟨"|exclude", false, 11⟩] := by decide
    have hlength := congrArg List.length (Except.ok.inj (hspliced.symm.trans ht))
    rw [List.length_append, hsettled, List.length_singleton] at hlength
    exact absurd hlength (by decide)

end Shell

end RouterShell
