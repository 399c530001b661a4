import RouterShell.Proofs.Command.Refusal
import RouterShell.Proofs.Line.Continuation
import RouterShell.Proofs.Shell.Approval

/-!
# A fault that is there stays

A line is judged again and again while it is typed. This module says that a judgement against it is final:
what is wrong in a line cannot be made right by typing on behind a blank.

## The model

Text behind a blank leaves all parts of a line alone but the last one, which may get more words
(`Pipeline.Continues`). A word that selects no command ends resolution, whatever follows. A fault of an
argument or of a word of a segment lasts, for the checks look at the words in order (`Refusal`,
`instantiate_error_append`); but their number is checked before what they mean, so a word that is not
accepted may be passed over for words that are too many (`Lasts`). A part in which a word is missing is
no reason to call a line wrong unless a pipe follows it, and such a part gets no more words.

## What is proved

`invalid_is_final`, from what is said of the segments (`SegmentFault.lasts`) and of the whole line
(`WordsAgree.lasts`).
-/

namespace RouterShell

/-- A fault of a word of a segment stays with more words, unless these are too many. -/
theorem FilterTable.instantiate_error_append {t : FilterTable} {words : List String} {fault : FilterFault}
    (h : t.instantiate words = .error fault) (hthere : fault.column < words.length)
    (more : List String) :
    t.instantiate (words ++ more) = .error fault ∨
      2 < (words ++ more).length ∧ t.instantiate (words ++ more) = .error .tooManyArguments := by
  cases words with
  | nil => exact absurd hthere (Nat.not_lt_zero _)
  | cons name args =>
    rw [List.cons_append, instantiate]
    rw [instantiate] at h
    cases hname : abbreviate t.entries name with
    | none =>
      rw [hname] at h
      exact Or.inl h
    | some e =>
      rw [hname] at h
      cases args with
      | nil =>
        obtain rfl : FilterFault.missingPattern = fault := Except.error.inj h
        exact absurd hthere (Nat.lt_irrefl 1)
      | cons pattern args =>
        cases args with
        | cons word rest => exact Or.inl h
        | nil =>
          -- the pattern is the only argument, so the first further word is one too many
          cases more with
          | nil => exact Or.inl h
          | cons word rest => exact Or.inr ⟨by simp, rfl⟩

namespace Shell

open Text Line CommandTree

/-- What is said of a line once it goes on: the same as before, or that there are too many words. -/
inductive Lasts (v : Verdict) : Verdict → Prop where
  /-- The same is said. -/
  | same : Lasts v v
  /-- There are too many words by now. -/
  | tooMany (position : Nat) : Lasts v (.invalid position "too many arguments")

section Segments

variable {s : Shell} {line : List Char} {tokens tokens' : List Token}

/-- A fault of the segments stays when the last of them gets more words and others follow it. The segments
before the last one are passed one by one. -/
theorem SegmentFault.lasts {before : List Segment} {i : Nat} {words : List String} {fault : FilterFault}
    {position : Nat} {message : String}
    (h : SegmentFault s line tokens (before ++ [⟨i, words⟩]) fault (.invalid position message))
    (htokens : tokens <+: tokens') (hend : i + words.length = tokens.length) {more : List String}
    (hmore : ∀ j word, (words ++ more)[j]? = some word → ∃ t, tokens'[i + j]? = some t)
    (line' : List Char) (behind : List Segment) :
    ∃ fault' v, SegmentFault s line' tokens' (before ++ ⟨i, words ++ more⟩ :: behind) fault' v ∧
      Lasts (.invalid position message) v := by
  induction before with
  | nil =>
    have htooMany : 2 < (words ++ more).length →
        s.filters.instantiate (words ++ more) = .error .tooManyArguments →
        ∃ fault' v, SegmentFault s line' tokens' (⟨i, words ++ more⟩ :: behind) fault' v ∧
          Lasts (.invalid position message) v := by
      intro hlength hmany
      obtain ⟨t, ht⟩ := hmore 2 _ (List.getElem?_eq_getElem hlength)
      refine ⟨_, _, .word (fun hnil => ?_) hmany (by simp) (.present ht), .tooMany _⟩
      rw [show words ++ more = [] from hnil] at hlength
      cases hlength
    cases h with
    | unknown hbad ht =>
      obtain ⟨args, hargs⟩ := words_of_unknown hbad
      have hthere : 0 < words.length := by
        rw [show words = _ from hargs]
        exact Nat.zero_lt_succ _
      rcases FilterTable.instantiate_error_append hbad hthere more with hsame | ⟨hlength, hmany⟩
      · exact ⟨_, _, .unknown hsame (getElem?_of_isPrefix htokens ht), .same⟩
      · exact htooMany hlength hmany
    | @word _ _ fault _ hlast hbad hnot hplace =>
      cases hplace with
      | present ht =>
        have hthere : fault.column < words.length := by
          have hlt : i + fault.column < tokens.length := (List.getElem?_eq_some_iff.mp ht).1
          omega
        rcases FilterTable.instantiate_error_append hbad hthere more with hsame | ⟨hlength, hmany⟩
        · have ht' := getElem?_of_isPrefix htokens ht
          refine ⟨_, _, .word (fun hnil => ?_) hsame hnot (.present ht'), .same⟩
          rw [(List.append_eq_nil_iff.mp (show words ++ more = [] from hnil)).1] at hthere
          cases hthere
        · exact htooMany hlength hmany
    | later _ hrest => cases hrest
  | cons seg before ih =>
    rw [List.cons_append] at h ⊢
    generalize hsegments : before ++ [⟨i, words⟩] = segments at h
    cases h with
    | unknown hbad ht => exact ⟨_, _, .unknown hbad (getElem?_of_isPrefix htokens ht), .same⟩
    | word _ hbad hnot hplace =>
      cases hplace with
      | present ht =>
        have ht' := getElem?_of_isPrefix htokens ht
        exact ⟨_, _, .word (fun _ => by simp) hbad hnot (.present ht'), .same⟩
    | later hok hrest =>
      obtain ⟨fault', v, hfault, hlasts⟩ := ih (hsegments ▸ hrest)
      exact ⟨fault', v, .later hok hfault, hlasts⟩

end Segments

section Words

variable {s : Shell} {lookups : Lookups} {net : Network} {line : List Char} {tokens tokens' : List Token}

/-- A fault of an argument stays: it lasts, or the argument is missing before a pipe, where there will not be
more of them. -/
theorem argument_lasts (hs : s.IsBuiltin lookups) {c : Command} {e : ShellError} {t : Token}
    {r : Resolution Command} (hr : s.commands.resolve (Pipeline.ofTokens tokens).command = r)
    (hc : r.command? = some c) (hv : (c.validate net r.remaining).value = .error e)
    (ht : tokens[r.depth + e.column?.getD 0]? = some t) (htokens : tokens <+: tokens')
    (line' : List Char) :
    ∃ e' v, WordsAgree s net line' tokens' (.ofTokens tokens')
      (s.commands.resolve (Pipeline.ofTokens tokens').command) e' v ∧
      Lasts (.invalid t.start e.message) v := by
  have hcontinues := Pipeline.continues_ofTokens htokens
  have ht' := getElem?_of_isPrefix htokens ht
  obtain ⟨hdepth, hresolve⟩ := hs.resolve_append hr hc
  have hmem : (r.path, c) ∈ builtinCommands s.tools lookups := by
    rw [← hr] at hc ⊢
    exact hs.mem_of_resolve hc
  cases (offered_of_mem hmem).refusal hv with
  | missing _ =>
    have hpipe : (Pipeline.ofTokens tokens).segments ≠ [] := by
      intro hunpiped
      have hlength : (Pipeline.ofTokens tokens).command.length = tokens.length :=
        Pipeline.command_length_of_unsegmented hunpiped
      have hlt : r.depth + r.remaining.length < tokens.length := (List.getElem?_eq_some_iff.mp ht).1
      omega
    rw [hcontinues.command_eq hpipe, hr]
    exact ⟨_, _, .argument hc hv (.present ht'), .same⟩
  | lasting _ hcolumn hmore =>
    obtain ⟨more, hcommand⟩ := hcontinues.command_isPrefix
    rw [← hcommand, hresolve more]
    rcases hmore more with hsame | ⟨max, hmax, hmany⟩
    · exact ⟨_, _, .argument hc hsame (.present ht'), .same⟩
    · have hword : r.depth + max < (Pipeline.ofTokens tokens').command.length := by
        rw [← hcommand, List.length_append]
        rw [List.length_append] at hmax
        omega
      obtain ⟨t', ht', -⟩ := Pipeline.command_getElem? (List.getElem?_eq_getElem hword)
      exact ⟨_, _, .argument hc hmany (.present ht'), .tooMany _⟩

/-- A fault of the segments stays, for the command does not get more words. -/
theorem segment_lasts {c : Command} {parsed : ParsedArgs} {fault : FilterFault} {position : Nat}
    {message : String} {r : Resolution Command}
    (hr : s.commands.resolve (Pipeline.ofTokens tokens).command = r) (hc : r.command? = some c)
    (hv : (c.validate net r.remaining).value = .ok parsed)
    (hfault : SegmentFault s line tokens (Pipeline.ofTokens tokens).segments fault
      (.invalid position message))
    (htokens : tokens <+: tokens') (line' : List Char) :
    ∃ e' v, WordsAgree s net line' tokens' (.ofTokens tokens')
      (s.commands.resolve (Pipeline.ofTokens tokens').command) e' v ∧
      Lasts (.invalid position message) v := by
  have hcontinues := Pipeline.continues_ofTokens htokens
  have hpipe : (Pipeline.ofTokens tokens).segments ≠ [] := by
    intro hnone
    rw [hnone] at hfault
    cases hfault
  obtain ⟨before, i, words, more, behind, hsegments, hsegments'⟩ := hcontinues.exists_segment hpipe
  have hend : i + words.length = tokens.length := by
    rw [← Nat.zero_add tokens.length]
    exact Pipeline.segment_end hsegments
  have hmore : ∀ j word, (words ++ more)[j]? = some word → ∃ t, tokens'[i + j]? = some t := by
    intro j word hword
    have hmem : ⟨i, words ++ more⟩ ∈ (Pipeline.ofTokens tokens').segments := by
      rw [hsegments']
      exact List.mem_append_right before List.mem_cons_self
    obtain ⟨k, t, hoffset, ht, -⟩ := Pipeline.segment_getElem? hmem hword
    rw [Nat.zero_add] at hoffset
    exact ⟨t, by rwa [show i = k from hoffset]⟩
  rw [hsegments] at hfault
  obtain ⟨fault', v, hfault', hlasts⟩ := hfault.lasts htokens hend hmore line' behind
  rw [← hsegments'] at hfault'
  rw [hcontinues.command_eq hpipe, hr]
  exact ⟨_, v, .segment hc hv hfault', hlasts⟩

/-- A fault of a line that is cut into words stays when more tokens follow. -/
theorem WordsAgree.lasts (hs : s.IsBuiltin lookups) {e : ShellError} {position : Nat} {message : String}
    (h : WordsAgree s net line tokens (.ofTokens tokens)
      (s.commands.resolve (Pipeline.ofTokens tokens).command) e (.invalid position message))
    (htokens : tokens <+: tokens') (line' : List Char) :
    ∃ e' v, WordsAgree s net line' tokens' (.ofTokens tokens')
      (s.commands.resolve (Pipeline.ofTokens tokens').command) e' v ∧
      Lasts (.invalid position message) v := by
  cases h with
  | leadingPipe ht hpipe =>
    rw [List.head?_eq_getElem?] at ht
    have ht' := getElem?_of_isPrefix htokens ht
    rw [← List.head?_eq_getElem?] at ht'
    exact ⟨_, _, .leadingPipe ht' hpipe, .same⟩
  | unknown hne hnone hle ht =>
    -- resolution ends at the same word
    obtain ⟨more, hcommand⟩ := (Pipeline.continues_ofTokens htokens).command_isPrefix
    have hresolve := resolve_append_of_unselected hne hnone hle more
    rw [hcommand] at hresolve
    rw [← hresolve] at hnone hle ht
    have hlength := (Pipeline.continues_ofTokens htokens).command_isPrefix.length_le
    refine ⟨_, _, .unknown ?_ hnone (Nat.le_trans hle hlength) (getElem?_of_isPrefix htokens ht), .same⟩
    rw [← hcommand]
    exact List.append_ne_nil_of_left_ne_nil hne more
  | argument hc hv hplace =>
    cases hplace with
    | present ht => exact argument_lasts hs rfl hc hv ht htokens line'
  | segment hc hv hfault => exact segment_lasts rfl hc hv hfault htokens line'

end Words

/-- **A line that is judged invalid cannot be made right by typing on.** A shell is built whatever tools
were found. Take any state of the network, a line that can be read, and text behind it that begins with a
blank and leaves the line readable. If the line is judged invalid, so is the line with this text, at the
same place and for the same reason, or because there are too many words by now. -/
theorem invalid_is_final (config : Config) (tools : Toolbox) (lookups : Lookups) (disk : Disk)
    (launcher : Launcher) :
    ∃ s, build config tools lookups disk launcher = .ok s ∧
      ∀ net line blank rest, isBlank blank = true → (scan line).fault = none →
        (scan (line ++ blank :: rest)).fault = none →
        ∀ position message, (s.validate net line).value = .invalid position message →
          ∃ position' message',
            (s.validate net (line ++ blank :: rest)).value = .invalid position' message' ∧
            (position' = position ∧ message' = message ∨ message' = "too many arguments") := by
  obtain ⟨s, hbuild, hs, -, -⟩ := exists_build config tools lookups disk launcher
  refine ⟨s, hbuild, fun net line blank rest hblank hline hmore position message hinvalid => ?_⟩
  have htokens : tokenize line = .ok (scan line).tokens := by
    rw [tokenize, hline]
  have htokens' : tokenize (line ++ blank :: rest) = .ok (scan (line ++ blank :: rest)).tokens := by
    rw [tokenize, hmore]
  have hprefix := tokens_isPrefix (boundary_cons hblank rest) htokens htokens'
  obtain ⟨e, hagree⟩ := exists_agree_of_validate hinvalid Verdict.noConfusion
  cases hagree with
  | unreadable hfault =>
    rw [htokens] at hfault
    cases hfault
  | readable hread hwords =>
    obtain rfl := Except.ok.inj (htokens.symm.trans hread)
    obtain ⟨e', v, hwords', hlasts⟩ := hwords.lasts hs hprefix (line ++ blank :: rest)
    rw [(Agree.readable htokens' hwords').validate_value]
    cases hlasts with
    | same => exact ⟨_, _, rfl, Or.inl ⟨rfl, rfl⟩⟩
    | tooMany position' => exact ⟨_, _, rfl, Or.inr rfl⟩

/-- There is no namespace `red`, and no filter behind the name makes one. -/
theorem unknown_namespace_stays :
    ∃ s, bare = .ok s ∧ ∃ message,
      (s.validate ⟨.memory .empty [], none⟩ "netns red".toList).value = .invalid 6 message ∧
      ∃ position' message',
        (s.validate ⟨.memory .empty [], none⟩ "netns red | include x".toList).value =
          .invalid position' message' ∧
        (position' = 6 ∧ message' = message ∨ message' = "too many arguments") := by
  obtain ⟨s, hbare, hfinal⟩ : ∃ s, bare = .ok s ∧ _ := invalid_is_final _ _ _ _ _
  have htokens : tokenize "netns red".toList = .ok [⟨"netns", false, 0⟩, ⟨"red", false, 6⟩] := by decide
  obtain ⟨message, hinvalid⟩ : ∃ message,
      (s.validate ⟨.memory .empty [], none⟩ "netns red".toList).value = .invalid 6 message := by
    rw [validate_readable htokens, if_neg (by decide),
      judge_selected rfl (resolve_builtin (isBuiltin_of_bare hbare) netns_mem ["red"]) rfl]
    exact ⟨_, rfl⟩
  exact ⟨s, hbare, message, hinvalid,
    hfinal _ _ ' ' "| include x".toList (by decide) (by decide) (by decide) 6 message hinvalid⟩

end Shell

end RouterShell
