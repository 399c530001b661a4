import RouterShell.Proofs.Command.Refusal
import RouterShell.Proofs.Line.Continuation
import RouterShell.Proofs.Shell.Approval

/-!
# What an unfinished line lacks

A line is judged incomplete if something is missing at its end, where the judgement stands. This module
says what can be missing there, part by part.

## The model

`Unfinished` has a constructor for each of three: the words of the command lead to a level of the tree and
not on from there, an argument is missing, or the filter of a segment is (`SegmentLacks`). An argument is
only missed at the end of a line without pipes, and a filter or its pattern only in the last segment. The
words of the command are different: whether they lead to a command is decided before the segments are
looked at, so it does not matter which segments follow.

## What is proved

`incomplete_iff_unfinished`: a line is incomplete exactly if it is unfinished in one of these ways.
`pipe_behind_unfinished_path` is a line that is called incomplete at its end for words that are missing
before a pipe.
-/

namespace RouterShell

/-- A fault of a segment is one of its words, or there is a word too few. -/
theorem FilterTable.instantiate_error_column {t : FilterTable} {words : List String} {fault : FilterFault}
    (h : t.instantiate words = .error fault) :
    fault.column < words.length ∨ (words = [] ∧ fault = .missingName) ∨
      ∃ name e, words = [name] ∧ abbreviate t.entries name = some e ∧ fault = .missingPattern := by
  cases words with
  | nil => exact Or.inr (Or.inl ⟨rfl, (Except.error.inj h).symm⟩)
  | cons name args =>
    rw [instantiate] at h
    cases hname : abbreviate t.entries name with
    | none =>
      rw [hname] at h
      obtain rfl := Except.error.inj h
      exact Or.inl (Nat.zero_lt_succ _)
    | some e =>
      rw [hname] at h
      cases args with
      | nil => exact Or.inr (Or.inr ⟨name, e, rfl, hname, (Except.error.inj h).symm⟩)
      | cons pattern args =>
        cases args with
        | nil =>
          dsimp only at h
          cases hread : Pattern.read pattern with
          | ok p =>
            rw [hread] at h
            cases h
          | error bad =>
            rw [hread] at h
            obtain rfl := Except.error.inj h
            exact Or.inl (Nat.lt_succ_self 1)
        | cons word rest =>
          obtain rfl : FilterFault.tooManyArguments = fault := Except.error.inj h
          exact Or.inl (Nat.succ_lt_succ (Nat.succ_lt_succ (Nat.zero_lt_succ _)))

namespace Shell

open Text Line CommandTree

/-- What a segment lacks whose words go no further, as the judgement words it. -/
inductive SegmentLacks (t : FilterTable) (words : List String) : String → Prop where
  /-- The name of a filter. -/
  | name : words = [] → SegmentLacks t words "missing filter"
  /-- The pattern of the filter that is named. -/
  | pattern {name : String} {e : String × FilterEntry} : words = [name] →
      abbreviate t.entries name = some e → SegmentLacks t words "missing argument"

/-- What a line with these tokens lacks, as the judgement words it. -/
inductive Unfinished (s : Shell) (net : Network) (tokens : List Token) : String → Prop where
  /-- The words before the first pipe lead to a level, from which further words lead to commands. -/
  | path {names : List String} {m : Level Command} : (Pipeline.ofTokens tokens).command ≠ [] →
      Descends s.commands.root (Pipeline.ofTokens tokens).command names m →
      Unfinished s net tokens "incomplete command"
  /-- There are no pipes, and the command misses an argument behind those that are there. -/
  | argument {r : Resolution Command} {c : Command} {fault : ArgumentFault} :
      (∀ t ∈ tokens, t.isPipe = false) → s.commands.resolve (Pipeline.ofTokens tokens).command = r →
      r.command? = some c → fault.isMissing = true →
      (c.validate net r.remaining).value = .error (.argument r.remaining.length fault) →
      Unfinished s net tokens fault.message
  /-- The command accepts its arguments and all segments but the last are filters; the last one goes no
  further. -/
  | segment {r : Resolution Command} {c : Command} {parsed : ParsedArgs} {before : List Segment}
      {seg : Segment} {message : String} :
      s.commands.resolve (Pipeline.ofTokens tokens).command = r → r.command? = some c →
      (c.validate net r.remaining).value = .ok parsed →
      (Pipeline.ofTokens tokens).segments = before ++ [seg] →
      (∀ b ∈ before, ∃ f, s.filters.instantiate b.words = .ok f) →
      SegmentLacks s.filters seg.words message → Unfinished s net tokens message

/-! ### The segments -/

section Segments

variable {s : Shell} {line : List Char} {tokens : List Token} {segments before : List Segment}
  {seg : Segment} {message : String}

/-- Segments are incomplete for the last one. Any other ends before the line does, so what is missing in it
is missed at a token, the next pipe. -/
theorem SegmentFault.lacks {fault : FilterFault} {position : Nat}
    (h : SegmentFault s line tokens segments fault (.incomplete position message))
    (hends : ∀ before seg after, segments = before ++ seg :: after →
      seg.offset + seg.words.length ≤ tokens.length ∧
        (after ≠ [] → seg.offset + seg.words.length < tokens.length)) :
    position = byteLength line ∧ ∃ before seg, segments = before ++ [seg] ∧
      (∀ b ∈ before, ∃ f, s.filters.instantiate b.words = .ok f) ∧
      SegmentLacks s.filters seg.words message := by
  generalize hv : Verdict.incomplete position message = v at h
  induction h with
  | unknown _ _ => cases hv
  | @missing seg hnil =>
    obtain ⟨rfl, rfl⟩ := Verdict.incomplete.inj hv
    exact ⟨rfl, [], seg, rfl, fun _ h => absurd h List.not_mem_nil, .name hnil⟩
  | @word seg rest fault v hlast hbad _ hplace =>
    cases hplace with
    | present _ => cases hv
    | missing hnone =>
      obtain ⟨rfl, rfl⟩ := Verdict.incomplete.inj hv
      obtain ⟨hle, hlt⟩ := hends [] seg rest rfl
      rw [List.getElem?_eq_none_iff] at hnone
      rcases FilterTable.instantiate_error_column hbad with
        hcolumn | ⟨hnil, rfl⟩ | ⟨name, e, hname, he, rfl⟩
      · omega
      · have hoffset := hlt (hlast hnil)
        rw [hnil] at hoffset
        exact absurd hoffset (Nat.not_lt.mpr hnone)
      · have hrest : rest = [] := by
          refine Decidable.byContradiction fun hne => ?_
          have hoffset := hlt hne
          rw [hname] at hoffset
          exact absurd hoffset (Nat.not_lt.mpr hnone)
        subst hrest
        exact ⟨rfl, [], seg, rfl, fun _ h => absurd h List.not_mem_nil, .pattern hname he⟩
  | @later seg rest f fault v hok _ ih =>
    obtain ⟨hposition, before, last, rfl, hbefore, hlacks⟩ :=
      ih (fun before seg' after h => hends (seg :: before) seg' after (by rw [h]; rfl)) hv
    refine ⟨hposition, seg :: before, last, rfl, fun b hb => ?_, hlacks⟩
    rcases List.mem_cons.mp hb with rfl | hb
    · exact ⟨f, hok⟩
    · exact hbefore b hb

/-- Behind filters, a last segment that goes no further is what is missed at the end. -/
theorem SegmentLacks.segmentFault (h : SegmentLacks s.filters seg.words message)
    (hend : seg.offset + seg.words.length = tokens.length)
    (hbefore : ∀ b ∈ before, ∃ f, s.filters.instantiate b.words = .ok f) :
    ∃ fault, SegmentFault s line tokens (before ++ [seg]) fault
      (.incomplete (byteLength line) message) := by
  induction before with
  | nil =>
    cases h with
    | name hnil => exact ⟨_, .missing hnil⟩
    | @pattern name e hname he =>
      have hbad : s.filters.instantiate seg.words = .error .missingPattern := by
        rw [hname, FilterTable.instantiate, he]
      rw [hname] at hend
      refine ⟨_, .word (fun hnil => ?_) hbad (by simp) (.missing ?_)⟩
      · rw [hnil] at hname
        cases hname
      · exact List.getElem?_eq_none_iff.mpr (Nat.le_of_eq hend.symm)
  | cons b before ih =>
    obtain ⟨f, hf⟩ := hbefore b List.mem_cons_self
    obtain ⟨fault, hfault⟩ := ih fun b' hb' => hbefore b' (List.mem_cons_of_mem b hb')
    exact ⟨fault, .later hf hfault⟩

/-- The segments of a line end where it ends, or before. -/
theorem segment_ends (tokens : List Token) (before : List Segment) (seg : Segment) (after : List Segment)
    (h : (Pipeline.ofTokens tokens).segments = before ++ seg :: after) :
    seg.offset + seg.words.length ≤ tokens.length ∧
      (after ≠ [] → seg.offset + seg.words.length < tokens.length) := by
  cases after with
  | nil =>
    have hend := Pipeline.segment_end h
    exact ⟨by omega, fun h => absurd rfl h⟩
  | cons next after =>
    have hend := Pipeline.segment_end_lt h
    exact ⟨by omega, fun _ => by omega⟩

end Segments

/-! ### The line -/

section Lines

variable {s : Shell} {lookups : Lookups} {net : Network} {line : List Char} {tokens : List Token}
  {message : String}

/-- What is said of an incomplete line is what it lacks. -/
theorem WordsAgree.unfinished (hs : s.IsBuiltin lookups) {e : ShellError} {position : Nat}
    (h : WordsAgree s net line tokens (.ofTokens tokens)
      (s.commands.resolve (Pipeline.ofTokens tokens).command) e (.incomplete position message)) :
    position = byteLength line ∧ Unfinished s net tokens message := by
  cases h with
  | incomplete hne hinc =>
    obtain ⟨hnone, hdepth⟩ := isIncomplete_iff.mp hinc
    refine ⟨rfl, ?_⟩
    rcases descends_cases s.commands.root (Pipeline.ofTokens tokens).command with
      ⟨names, m, hway⟩ | ⟨used, word, rest, names, m, hwords, hway, hnothing | ⟨name, c, hleaf⟩⟩
    · exact .path hne hway
    · -- a word that selects nothing is one of those that are there
      rw [hwords, (hway.resolve_end word rest).1 hnothing, List.length_append, List.length_cons] at hdepth
      have hlength : used.length + (rest.length + 1) < used.length + 1 := hdepth
      omega
    · rw [hwords, (hway.resolve_end word rest).2 name c hleaf] at hnone
      cases hnone
  | argument hc hv hplace =>
    cases hplace with
    | missing hnone =>
      refine ⟨rfl, ?_⟩
      rw [List.getElem?_eq_none_iff] at hnone
      obtain ⟨hdepth, -⟩ := hs.resolve_append rfl hc
      cases (offered_of_mem (hs.mem_of_resolve hc)).refusal hv with
      | missing hmissing =>
        have hunpiped : (Pipeline.ofTokens tokens).segments = [] := by
          refine Decidable.byContradiction fun hpipe => ?_
          have hlt : (Pipeline.ofTokens tokens).command.length < tokens.length :=
            Pipeline.command_length_lt hpipe
          rw [← hdepth] at hlt
          exact absurd hlt (Nat.not_lt.mpr hnone)
        exact .argument (Pipeline.segments_eq_nil_iff.mp hunpiped) rfl hc hmissing hv
      | @lasting column _ _ hcolumn _ =>
        -- an argument that is there has its token
        have hle : (Pipeline.ofTokens tokens).command.length ≤ tokens.length :=
          Pipeline.command_length_le 0 tokens
        rw [← hdepth] at hle
        have hnone : tokens.length ≤ _ + column := hnone
        omega
  | segment hc hv hfault =>
    obtain ⟨hposition, before, seg, hsegments, hbefore, hlacks⟩ := hfault.lacks (segment_ends tokens)
    exact ⟨hposition, .segment rfl hc hv hsegments hbefore hlacks⟩

/-- What a line lacks is what is said of it. -/
theorem Unfinished.wordsAgree (hs : s.IsBuiltin lookups) (h : Unfinished s net tokens message) :
    ∃ e, WordsAgree s net line tokens (.ofTokens tokens)
      (s.commands.resolve (Pipeline.ofTokens tokens).command) e
      (.incomplete (byteLength line) message) := by
  cases h with
  | path hne hway =>
    have hnone := hs.command_eq_none hway
    exact ⟨_, .incomplete hne (isIncomplete_iff.mpr ⟨hnone, hway.depth_of_command_none hne hnone⟩)⟩
  | @argument r c fault hpipe hr hc _ hv =>
    obtain ⟨hdepth, -⟩ := hs.resolve_append hr hc
    have hlength : (Pipeline.ofTokens tokens).command.length = tokens.length :=
      Pipeline.command_length_of_unsegmented (Pipeline.segments_eq_nil_iff.mpr hpipe)
    rw [hr]
    refine ⟨_, .argument hc hv (.missing (List.getElem?_eq_none_iff.mpr ?_))⟩
    show tokens.length ≤ r.depth + r.remaining.length
    omega
  | segment hr hc hv hsegments hbefore hlacks =>
    have hend : _ = 0 + tokens.length := Pipeline.segment_end hsegments
    rw [Nat.zero_add] at hend
    obtain ⟨fault, hfault⟩ := hlacks.segmentFault hend hbefore
    rw [← hsegments] at hfault
    rw [hr]
    exact ⟨_, .segment hc hv hfault⟩

end Lines

/-- **An incomplete line lacks something in its last part, or words of a command.** A shell is built
whatever tools were found. In every state of the network a line is judged incomplete exactly if it can be
read and is unfinished, and the judgement stands at the end of the line and says what the line lacks: an
argument, if there are no pipes and all other words are accepted; a filter or its pattern in the last
segment, if all before it is accepted; or words of a command, whatever segments follow. -/
theorem incomplete_iff_unfinished (config : Config) (tools : Toolbox) (lookups : Lookups) (disk : Disk)
    (launcher : Launcher) :
    ∃ s, build config tools lookups disk launcher = .ok s ∧
      ∀ net line position message, (s.validate net line).value = .incomplete position message ↔
        position = byteLength line ∧
          ∃ tokens, tokenize line = .ok tokens ∧ Unfinished s net tokens message := by
  obtain ⟨s, hbuild, hs, -, -⟩ := exists_build config tools lookups disk launcher
  refine ⟨s, hbuild, fun net line position message => ⟨fun hincomplete => ?_, ?_⟩⟩
  · obtain ⟨e, hagree⟩ := exists_agree_of_validate hincomplete Verdict.noConfusion
    cases hagree with
    | readable htokens hwords =>
      obtain ⟨hposition, hunfinished⟩ := hwords.unfinished hs
      exact ⟨hposition, _, htokens, hunfinished⟩
  · rintro ⟨rfl, tokens, htokens, hunfinished⟩
    obtain ⟨e, hwords⟩ := hunfinished.wordsAgree hs
    exact (Agree.readable htokens hwords).validate_value

/-- The words of a command are missing before the pipe of `show | include lo`, and the line is called
incomplete at its end, behind the filter. -/
theorem pipe_behind_unfinished_path :
    ∃ s, bare = .ok s ∧
      ∀ net, (s.validate net "show | include lo".toList).value = .incomplete 17 "incomplete command" ∧
        ∃ tokens, tokenize "show | include lo".toList = .ok tokens ∧
          ∃ t ∈ tokens, t.isPipe = true ∧ t.start < 17 := by
  obtain ⟨s, hbare, hs⟩ := exists_bare
  obtain ⟨tokens, htokens, hcommand, hpipe⟩ : ∃ tokens,
      tokenize "show | include lo".toList = .ok tokens ∧
        (Pipeline.ofTokens tokens).command = ["show"] ∧
        ∃ t ∈ tokens, t.isPipe = true ∧ t.start < 17 :=
    ⟨[⟨"show", false, 0⟩, ⟨"|", false, 5⟩, ⟨"include", false, 7⟩, ⟨"lo", false, 15⟩], by decide,
      by decide, ⟨"|", false, 5⟩, by decide, by decide, by decide⟩
  refine ⟨s, hbare, fun net => ⟨?_, tokens, htokens, hpipe⟩⟩
  have hfollows : Follows (builtinCommands s.tools .builtin) ([] ++ ["show"]) "netns" :=
    ⟨[], Show.namespaces, by simp [builtinCommands]⟩
  obtain ⟨m, hway⟩ := (Represents.levelAt hs).exists_descends hfollows
  rw [← hcommand] at hway
  have hunfinished : Unfinished s net tokens "incomplete command" := .path (by simp [hcommand]) hway
  obtain ⟨e, hwords⟩ := hunfinished.wordsAgree hs
  exact (Agree.readable htokens hwords).validate_value

end Shell

end RouterShell
