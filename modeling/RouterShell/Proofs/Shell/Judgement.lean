import RouterShell.Proofs.Command.Run
import RouterShell.Proofs.Line.Grammar
import RouterShell.Proofs.Line.Segments
import RouterShell.Shell

/-!
# Judging a line and executing it

A line is judged while it is typed and executed when it is finished. This module proves that the two
agree: a line is judged valid exactly if executing it gets as far as its command, and any other line
fails before that, for the reason and at the place that the judgement gives.

## The model

Executing a line is `prepare`, which finds the command and accepts its arguments and filters, and then
`carryOut`. `Reaches` says that `prepare` succeeds. What a failing line fails with and what is said of
it are tied by `Agree`: a line that cannot be read, or whose words (`WordsAgree`) or segments
(`SegmentFault`) are at fault. There is a constructor for every way to be at fault, with the error, the
verdict, and what makes the fault the first one.

A verdict gives a place in the text, an error an index among arguments or words of a segment. `Anchored`
goes from the one to the other: an index of a token that is there is its start; a token that is
missing makes the line incomplete.

## What is proved

A fault of a line decides both answers (`Agree.run_dispatch`, `Agree.validate_value`), and a line
with words and no fault reaches its command (`nil_or_reaches_or_agree`). Together these are
`validate_agrees_dispatch`.
-/

namespace RouterShell.Shell

open Text

/-! ### What makes a line fail -/

/-- The verdict on a fault of the token with index `i`: at its start, or at the end of the line if there
is no such token. -/
inductive Anchored (line : List Char) (tokens : List Token) (i : Nat) (message : String) :
    Verdict → Prop where
  /-- The token is there. -/
  | present {t : Token} : tokens[i]? = some t → Anchored line tokens i message (.invalid t.start message)
  /-- The token is missing. -/
  | missing : tokens[i]? = none →
      Anchored line tokens i message (.incomplete (byteLength line) message)

/-- The fault of the first segment that is not accepted, and the verdict on it. -/
inductive SegmentFault (s : Shell) (line : List Char) (tokens : List Token) :
    List Segment → FilterFault → Verdict → Prop where
  /-- The segment names no filter. -/
  | unknown {seg : Segment} {rest : List Segment} {t : Token} :
      s.filters.instantiate seg.words = .error (.unknown t.text) → tokens[seg.offset]? = some t →
      SegmentFault s line tokens (seg :: rest) (.unknown t.text) (.invalid t.start "unknown filter")
  /-- The last segment is empty. -/
  | missing {seg : Segment} : seg.words = [] →
      SegmentFault s line tokens [seg] .missingName
        (.incomplete (byteLength line) "missing filter")
  /-- The segment is at fault in one of its words. -/
  | word {seg : Segment} {rest : List Segment} {fault : FilterFault} {v : Verdict} :
      (seg.words = [] → rest ≠ []) → s.filters.instantiate seg.words = .error fault →
      (∀ name, fault ≠ .unknown name) →
      Anchored line tokens (seg.offset + fault.column) fault.message v →
      SegmentFault s line tokens (seg :: rest) fault v
  /-- The first segment is accepted. -/
  | later {seg : Segment} {rest : List Segment} {f : Filter} {fault : FilterFault} {v : Verdict} :
      s.filters.instantiate seg.words = .ok f → SegmentFault s line tokens rest fault v →
      SegmentFault s line tokens (seg :: rest) fault v

/-- An error of a line that is cut into words, and the verdict on it. -/
inductive WordsAgree (s : Shell) (net : Network) (line : List Char) (tokens : List Token)
    (p : Pipeline) (r : CommandTree.Resolution Command) : ShellError → Verdict → Prop where
  /-- The line begins with a pipe. -/
  | leadingPipe {t : Token} : tokens.head? = some t → t.isPipe = true →
      WordsAgree s net line tokens p r (.badSyntax .missingCommand)
        (.invalid t.start "missing command")
  /-- The line ends before a command is reached. -/
  | incomplete : p.command ≠ [] → r.isIncomplete p.command.length = true →
      WordsAgree s net line tokens p r .incompleteCommand
        (.incomplete (byteLength line) "incomplete command")
  /-- A word selects nothing: the one that the resolution stopped at. -/
  | unknown {t : Token} : p.command ≠ [] → r.command? = none → r.depth ≤ p.command.length →
      tokens[r.depth - 1]? = some t →
      WordsAgree s net line tokens p r (.unknownCommand t.text) (.invalid t.start "unknown command")
  /-- The command does not accept its arguments. -/
  | argument {c : Command} {e : ShellError} {v : Verdict} : r.command? = some c →
      (c.validate net r.remaining).value = .error e →
      Anchored line tokens (r.depth + e.column?.getD 0) e.message v →
      WordsAgree s net line tokens p r e v
  /-- The command accepts its arguments, but a segment is at fault. -/
  | segment {c : Command} {parsed : ParsedArgs} {fault : FilterFault} {v : Verdict} :
      r.command? = some c → (c.validate net r.remaining).value = .ok parsed →
      SegmentFault s line tokens p.segments fault v →
      WordsAgree s net line tokens p r (.filter fault) v

/-- An error of a line and the verdict on it. -/
inductive Agree (s : Shell) (net : Network) (line : List Char) : ShellError → Verdict → Prop where
  /-- The line cannot be read. -/
  | unreadable {fault : SyntaxFault} : Line.tokenize line = .error fault →
      Agree s net line (.badSyntax fault) (.invalid (byteLength line) fault.message)
  /-- The line is read. -/
  | readable {tokens : List Token} {e : ShellError} {v : Verdict} :
      Line.tokenize line = .ok tokens →
      WordsAgree s net line tokens (.ofTokens tokens)
        (s.commands.resolve (Pipeline.ofTokens tokens).command) e v →
      Agree s net line e v

/-- A pipeline is free of faults: its words select a command, which accepts the words behind them, and its
segments make up a chain of filters. -/
structure Accepted (s : Shell) (net : Network) (p : Pipeline) (c : Command) (inv : Invocation)
    (chain : FilterChain) : Prop where
  /-- The words select the command. -/
  command : (s.commands.resolve p.command).command? = some c
  /-- The invocation has its path. -/
  path : inv.path = (s.commands.resolve p.command).path
  /-- The arguments are the words behind it. -/
  args : inv.args = (s.commands.resolve p.command).remaining
  /-- The command accepts them. -/
  parsed : (c.validate net inv.args).value = .ok inv.parsed
  /-- The segments describe the filters. -/
  filters : s.filters.buildChain p.segments = .ok chain

/-- Executing a line in a world gets as far as a command, with its invocation and filters, and to the
world `w'`. -/
def Reaches (s : Shell) (line : List Char) (w : World) (c : Command) (inv : Invocation)
    (chain : FilterChain) (w' : World) : Prop :=
  ∃ tokens, tokens ≠ [] ∧ Line.tokenize line = .ok tokens ∧
    (s.prepare (.ofTokens tokens)).run.run w = (.ok (c, inv, chain), w')

/-! ### Places -/

theorem anchored_iff {line : List Char} {tokens : List Token} {i : Nat} {message : String}
    {v : Verdict} :
    Anchored line tokens i message v ↔ anchored line tokens i message = v := by
  constructor
  · rintro (h | h)
    · rw [anchored, h]
    · rw [anchored, h]
  · rintro rfl
    rw [anchored]
    split
    · next h => exact .present h
    · next h => exact .missing h

theorem startOf_of_getElem? {line : List Char} {tokens : List Token} {i : Nat} {t : Token}
    (h : tokens[i]? = some t) : startOf line tokens i = t.start := by
  rw [startOf, h]
  rfl

/-- A verdict on a line with these tokens speaks of the end of the line or of the start of a token, and
of the end if the line is incomplete. -/
def Placed (line : List Char) (tokens : List Token) (v : Verdict) : Prop :=
  (∃ message, v = .incomplete (byteLength line) message) ∨
    ∃ t ∈ tokens, ∃ message, v = .invalid t.start message

theorem Placed.ne_valid {line : List Char} {tokens : List Token} {v : Verdict}
    (h : Placed line tokens v) : v ≠ .valid := by
  rintro rfl
  rcases h with ⟨_, h⟩ | ⟨_, _, _, h⟩
  · cases h
  · cases h

theorem Anchored.placed {line : List Char} {tokens : List Token} {i : Nat} {message : String}
    {v : Verdict} (h : Anchored line tokens i message v) : Placed line tokens v := by
  cases h with
  | present ht => exact Or.inr ⟨_, List.mem_of_getElem? ht, _, rfl⟩
  | missing _ => exact Or.inl ⟨_, rfl⟩

theorem SegmentFault.placed {s : Shell} {line : List Char} {tokens : List Token}
    {segments : List Segment} {fault : FilterFault} {v : Verdict}
    (h : SegmentFault s line tokens segments fault v) : Placed line tokens v := by
  induction h with
  | unknown _ ht => exact Or.inr ⟨_, List.mem_of_getElem? ht, _, rfl⟩
  | missing _ => exact Or.inl ⟨_, rfl⟩
  | word _ _ _ hplace => exact hplace.placed
  | later _ _ ih => exact ih

theorem WordsAgree.placed {s : Shell} {net : Network} {line : List Char} {tokens : List Token}
    {p : Pipeline} {r : CommandTree.Resolution Command} {e : ShellError} {v : Verdict}
    (h : WordsAgree s net line tokens p r e v) : Placed line tokens v := by
  cases h with
  | leadingPipe ht _ => exact Or.inr ⟨_, List.mem_of_mem_head? ht, _, rfl⟩
  | incomplete _ _ => exact Or.inl ⟨_, rfl⟩
  | unknown _ _ _ ht => exact Or.inr ⟨_, List.mem_of_getElem? ht, _, rfl⟩
  | argument _ _ hplace => exact hplace.placed
  | segment _ _ hfault => exact hfault.placed

/-! ### The segments of a line -/

section Segments

variable {s : Shell} {line : List Char} {tokens : List Token} {segments : List Segment}

theorem buildChain_cons_ok {seg : Segment} {rest : List Segment} {f : Filter}
    (h : s.filters.instantiate seg.words = .ok f) :
    s.filters.buildChain (seg :: rest) =
      (s.filters.buildChain rest).map fun chain => ⟨f :: chain.filters⟩ := by
  rw [FilterTable.buildChain, FilterTable.buildChain, List.mapM_cons, h]
  cases rest.mapM fun seg => s.filters.instantiate seg.words with
  | ok fs => rfl
  | error fault => rfl

theorem buildChain_cons_error {seg : Segment} {fault : FilterFault}
    (h : s.filters.instantiate seg.words = .error fault) (rest : List Segment) :
    s.filters.buildChain (seg :: rest) = .error fault := by
  rw [FilterTable.buildChain, List.mapM_cons, h]
  rfl

/-- The name that no filter is found for is the first word of the segment. -/
theorem words_of_unknown {words : List String} {name : String}
    (h : s.filters.instantiate words = .error (.unknown name)) : ∃ args, words = name :: args := by
  cases words with
  | nil => cases h
  | cons word args =>
    rw [FilterTable.instantiate] at h
    split at h
    · simp only [Except.error.injEq, FilterFault.unknown.injEq] at h
      exact ⟨args, by rw [h]⟩
    · split at h
      · cases h
      · split at h <;> cases h
      · cases h

/-- The fault of the first bad segment is what building the chain fails with. -/
theorem SegmentFault.buildChain {fault : FilterFault} {v : Verdict}
    (h : SegmentFault s line tokens segments fault v) :
    s.filters.buildChain segments = .error fault := by
  induction h with
  | unknown hbad _ => exact buildChain_cons_error hbad _
  | missing hwords => exact buildChain_cons_error (by rw [hwords]; rfl) _
  | word _ hbad _ _ => exact buildChain_cons_error hbad _
  | later hok _ ih =>
    rw [buildChain_cons_ok hok, ih]
    rfl

/-- The fault of the first bad segment is what is judged. -/
theorem SegmentFault.judgeSegments {fault : FilterFault} {v : Verdict}
    (h : SegmentFault s line tokens segments fault v) :
    s.judgeSegments line tokens segments = v := by
  induction h with
  | @unknown seg rest t hbad ht =>
    have hwords : seg.words ≠ [] := by
      rintro hwords
      rw [hwords] at hbad
      cases hbad
    rw [Shell.judgeSegments, if_neg (by simp [hwords]), hbad]
    exact congrArg (Verdict.invalid · _) (startOf_of_getElem? ht)
  | missing hwords => rw [Shell.judgeSegments, if_pos (by simp [hwords])]
  | @word seg rest fault v hlast hbad hnot hplace =>
    have hne : ¬ (seg.words.isEmpty && rest.isEmpty) = true := by
      rw [Bool.and_eq_true, List.isEmpty_iff, List.isEmpty_iff]
      exact fun h => hlast h.1 h.2
    rw [Shell.judgeSegments, if_neg hne, hbad, ← anchored_iff.mp hplace]
    cases fault with
    | unknown name => exact absurd rfl (hnot name)
    | missingName => rfl
    | missingPattern => rfl
    | tooManyArguments => rfl
    | badPattern _ => rfl
  | @later seg rest f fault v hok hrest ih =>
    have hwords : seg.words ≠ [] := by
      rintro hwords
      rw [hwords] at hok
      cases hok
    rw [Shell.judgeSegments, if_neg (by simp [hwords]), hok]
    exact ih

/-- Segments that are words of the tokens are all accepted, or there is a first one at fault. -/
theorem segments_accepted_or_fault (s : Shell) (line : List Char)
    (hwords : ∀ seg ∈ segments, ∀ name args, seg.words = name :: args →
      ∃ t, tokens[seg.offset]? = some t ∧ t.text = name) :
    (s.judgeSegments line tokens segments = .valid ∧
        ∃ chain, s.filters.buildChain segments = .ok chain) ∨
      ∃ fault v, SegmentFault s line tokens segments fault v := by
  induction segments with
  | nil => exact Or.inl ⟨rfl, ⟨[]⟩, rfl⟩
  | cons seg rest ih =>
    by_cases hlast : seg.words = [] ∧ rest = []
    · obtain ⟨hnil, rfl⟩ := hlast
      exact Or.inr ⟨_, _, .missing hnil⟩
    · have hempty : ¬ (seg.words.isEmpty && rest.isEmpty) = true := by
        rwa [Bool.and_eq_true, List.isEmpty_iff, List.isEmpty_iff]
      cases hseg : s.filters.instantiate seg.words with
      | ok f =>
        rcases ih fun seg hmem => hwords seg (List.mem_cons_of_mem _ hmem) with
          ⟨hvalid, chain, hchain⟩ | ⟨fault, v, hfault⟩
        · refine Or.inl ⟨?_, ⟨f :: chain.filters⟩, ?_⟩
          · rw [Shell.judgeSegments, if_neg hempty, hseg]
            exact hvalid
          · rw [buildChain_cons_ok hseg, hchain]
            rfl
        · exact Or.inr ⟨fault, v, .later hseg hfault⟩
      | error fault =>
        right
        by_cases hunknown : ∃ name, fault = .unknown name
        · obtain ⟨name, rfl⟩ := hunknown
          obtain ⟨args, hargs⟩ := words_of_unknown hseg
          obtain ⟨t, ht, rfl⟩ := hwords seg List.mem_cons_self name args hargs
          exact ⟨_, _, .unknown hseg ht⟩
        · exact ⟨_, _, .word (fun h hr => hlast ⟨h, hr⟩) hseg (fun name h => hunknown ⟨name, h⟩)
            (anchored_iff.mpr rfl)⟩

end Segments

/-! ### Preparing a line -/

section Prepare

variable {s : Shell} {p : Pipeline} {r : CommandTree.Resolution Command} {w : World} {c : Command}
  {parsed : ParsedArgs}

theorem run_prepare_nil (h : p.command = []) :
    (s.prepare p).run.run w = (.error (.badSyntax .missingCommand), w) := by
  rw [prepare, if_pos (by rw [h]; rfl)]
  exact Action.run_bind_error (Action.run_throw _ _)

theorem run_prepare_unselected {e : ShellError} (hne : p.command ≠ [])
    (h : s.select p.command = .error e) : (s.prepare p).run.run w = (.error e, w) := by
  rw [prepare, if_neg (by simp [hne]), h]
  exact Action.run_bind_error (Action.run_ofExcept_error id _ _)

/-- A command that is found is asked about its arguments. -/
theorem run_prepare_selected (hr : s.commands.resolve p.command = r) (hc : r.command? = some c) :
    (s.prepare p).run.run w =
      (do
        let parsed ← Action.ofExcept id (c.validate w.network r.remaining).value
        let chain ← Action.ofExcept .filter (s.filters.buildChain p.segments)
        return (c, (⟨r.path, r.remaining, parsed⟩ : Invocation), chain) : Action _).run.run
        (w.asked (c.validate w.network r.remaining).runs) := by
  have hne : p.command ≠ [] := by
    intro hnil
    rw [← hr, hnil] at hc
    cases hc
  have hselect : s.select p.command = .ok (c, r.path, r.remaining) := by
    rw [select, hr, hc]
  rw [prepare, if_neg (by simp [hne]), hselect]
  rw [Action.run_bind_ok (Action.run_ofExcept_ok id _ _)]
  exact Action.run_bind_ok (Action.run_ask _ _)

theorem run_prepare_refused {e : ShellError} (hr : s.commands.resolve p.command = r)
    (hc : r.command? = some c) (hv : (c.validate w.network r.remaining).value = .error e) :
    (s.prepare p).run.run w = (.error e, w.asked (c.validate w.network r.remaining).runs) := by
  rw [run_prepare_selected hr hc, hv]
  exact Action.run_bind_error (Action.run_ofExcept_error id _ _)

theorem run_prepare_bad_segment {fault : FilterFault} (hr : s.commands.resolve p.command = r)
    (hc : r.command? = some c) (hv : (c.validate w.network r.remaining).value = .ok parsed)
    (hchain : s.filters.buildChain p.segments = .error fault) :
    (s.prepare p).run.run w =
      (.error (.filter fault), w.asked (c.validate w.network r.remaining).runs) := by
  rw [run_prepare_selected hr hc, hv, hchain]
  rw [Action.run_bind_ok (Action.run_ofExcept_ok id _ _)]
  exact Action.run_bind_error (Action.run_ofExcept_error _ _ _)

theorem run_prepare_accepted {chain : FilterChain} (hr : s.commands.resolve p.command = r)
    (hc : r.command? = some c) (hv : (c.validate w.network r.remaining).value = .ok parsed)
    (hchain : s.filters.buildChain p.segments = .ok chain) :
    (s.prepare p).run.run w =
      (.ok (c, ⟨r.path, r.remaining, parsed⟩, chain),
        w.asked (c.validate w.network r.remaining).runs) := by
  rw [run_prepare_selected hr hc, hv, hchain]
  rw [Action.run_bind_ok (Action.run_ofExcept_ok id _ _)]
  rw [Action.run_bind_ok (Action.run_ofExcept_ok _ _ _)]
  rfl

end Prepare

/-! ### Judging a line that is cut into words -/

section Words

variable {s : Shell} {net : Network} {line : List Char} {tokens : List Token} {p : Pipeline}
  {r : CommandTree.Resolution Command} {c : Command}

theorem judge_unselected (hp : Pipeline.ofTokens tokens = p)
    (hr : s.commands.resolve p.command = r) (h : r.command? = none) :
    s.judge net line tokens = pure
      (if p.command.isEmpty then .invalid (startOf line tokens 0) "missing command"
      else if r.isIncomplete p.command.length then
        .incomplete (byteLength line) "incomplete command"
      else .invalid (startOf line tokens (r.depth - 1)) "unknown command") := by
  subst hp hr
  rw [judge]
  simp only [h]

/-- Judging asks the command that is found about its arguments, and nothing else. -/
theorem judge_selected (hp : Pipeline.ofTokens tokens = p)
    (hr : s.commands.resolve p.command = r) (h : r.command? = some c) :
    s.judge net line tokens =
      ⟨match (c.validate net r.remaining).value with
        | .error e => anchored line tokens (r.depth + e.column?.getD 0) e.message
        | .ok _ => s.judgeSegments line tokens p.segments,
       (c.validate net r.remaining).runs⟩ := by
  subst hp hr
  rw [judge]
  simp only [h]
  obtain ⟨value, runs⟩ :=
    c.validate net (s.commands.resolve (Pipeline.ofTokens tokens).command).remaining
  cases value with
  | ok parsed => exact congrArg (Logged.mk _) (List.append_nil runs)
  | error e => exact congrArg (Logged.mk _) (List.append_nil runs)

/-! ### How far the words led -/

theorem isIncomplete_iff {n : Nat} :
    r.isIncomplete n = true ↔ r.command? = none ∧ n < r.depth := by
  rw [CommandTree.Resolution.isIncomplete, Bool.and_eq_true, Option.isNone_iff_eq_none,
    decide_eq_true_eq]

theorem lt_depth_of_resolveFrom {words : List String} {depth : Nat} {path : List String}
    {m : Level Command} (h : (CommandTree.resolveFrom depth path m words).command? = none) :
    depth < (CommandTree.resolveFrom depth path m words).depth := by
  induction words generalizing depth path m with
  | nil =>
    rw [CommandTree.resolveFrom] at h ⊢
    split at h
    · cases h
    · exact Nat.lt_succ_self depth
  | cons word rest ih =>
    rw [CommandTree.resolveFrom] at h ⊢
    split at h
    · exact Nat.lt_succ_self depth
    · cases h
    · exact Nat.lt_trans (Nat.lt_succ_self depth) (ih h)

/-- The word at which the words of a line select nothing is the text of the token with its index. -/
theorem exists_token_of_unselected (hp : Pipeline.ofTokens tokens = p)
    (hr : s.commands.resolve p.command = r) (hne : p.command ≠ []) (h : r.command? = none)
    (hle : r.depth ≤ p.command.length) :
    ∃ t, tokens[r.depth - 1]? = some t ∧
      s.select p.command = .error (.unknownCommand t.text) := by
  have hresolve : s.commands.resolve p.command =
      CommandTree.resolveFrom 0 [] s.commands.root p.command := by
    rw [CommandTree.resolve, if_neg (by simp [hne])]
  have hpos : 0 < r.depth := by
    rw [← hr, hresolve] at h ⊢
    exact lt_depth_of_resolveFrom h
  obtain ⟨word, hword⟩ : ∃ word, p.command[r.depth - 1]? = some word :=
    ⟨_, List.getElem?_eq_getElem (by omega)⟩
  obtain ⟨t, ht, htext⟩ : ∃ t, tokens[r.depth - 1]? = some t ∧ t.text = word := by
    rw [← hp] at hword
    exact Pipeline.command_getElem? hword
  have hcomplete : ¬ r.isIncomplete p.command.length = true :=
    fun hinc => Nat.not_lt.mpr hle (isIncomplete_iff.mp hinc).2
  refine ⟨t, ht, ?_⟩
  rw [select, hr, h]
  simp only [if_neg hcomplete, hword, htext, Option.getD_some]

/-- The first word of a segment is the text of the token at its offset. -/
theorem exists_token_of_segment (hp : Pipeline.ofTokens tokens = p) {seg : Segment}
    (hmem : seg ∈ p.segments) {name : String} {args : List String}
    (hwords : seg.words = name :: args) :
    ∃ t, tokens[seg.offset]? = some t ∧ t.text = name := by
  subst hp
  obtain ⟨k, t, hoffset, ht, htext⟩ :=
    Pipeline.segment_getElem? hmem (show seg.words[0]? = some name by rw [hwords]; rfl)
  rw [Nat.zero_add] at hoffset
  exact ⟨t, by rwa [hoffset], htext⟩

/-! ### A line that is cut into words -/

/-- A fault of a line that is cut into words is what its execution fails with. -/
theorem WordsAgree.run_prepare {w : World} {e : ShellError} {v : Verdict}
    (hp : Pipeline.ofTokens tokens = p) (hr : s.commands.resolve p.command = r)
    (h : WordsAgree s w.network line tokens p r e v) :
    (s.prepare p).run.run w = (.error e, w.asked (s.judge w.network line tokens).runs) := by
  cases h with
  | @leadingPipe t ht hpipe =>
    obtain ⟨rest, rfl⟩ := List.head?_eq_some_iff.mp ht
    have hnil : p.command = [] := hp ▸ Pipeline.command_eq_nil_of_isPipe hpipe rest 0
    have hnone : r.command? = none := by
      rw [← hr, hnil]
      rfl
    rw [judge_unselected hp hr hnone, Logged.runs_pure, World.asked_nil]
    exact run_prepare_nil hnil
  | incomplete hne hinc =>
    have hnone := (isIncomplete_iff.mp hinc).1
    rw [judge_unselected hp hr hnone, Logged.runs_pure, World.asked_nil]
    refine run_prepare_unselected hne ?_
    rw [select, hr, hnone]
    exact if_pos hinc
  | @unknown t hne hnone hle ht =>
    obtain ⟨t', ht', hselect⟩ := exists_token_of_unselected hp hr hne hnone hle
    rw [ht, Option.some.injEq] at ht'
    rw [judge_unselected hp hr hnone, Logged.runs_pure, World.asked_nil, ht']
    exact run_prepare_unselected hne hselect
  | argument hc hv _ =>
    rw [judge_selected hp hr hc]
    exact run_prepare_refused hr hc hv
  | segment hc hv hfault =>
    rw [judge_selected hp hr hc]
    exact run_prepare_bad_segment hr hc hv hfault.buildChain

/-- A fault of a line that is cut into words is what is judged. -/
theorem WordsAgree.judge_value {e : ShellError} {v : Verdict} (hp : Pipeline.ofTokens tokens = p)
    (hr : s.commands.resolve p.command = r) (h : WordsAgree s net line tokens p r e v) :
    (s.judge net line tokens).value = v := by
  cases h with
  | @leadingPipe t ht hpipe =>
    obtain ⟨rest, rfl⟩ := List.head?_eq_some_iff.mp ht
    have hnil : p.command = [] := hp ▸ Pipeline.command_eq_nil_of_isPipe hpipe rest 0
    have hnone : r.command? = none := by
      rw [← hr, hnil]
      rfl
    rw [judge_unselected hp hr hnone, Logged.value_pure, if_pos (by rw [hnil]; rfl)]
    rfl
  | incomplete hne hinc =>
    rw [judge_unselected hp hr (isIncomplete_iff.mp hinc).1, Logged.value_pure,
      if_neg (by simp [hne]), if_pos hinc]
  | @unknown t hne hnone hle ht =>
    have hcomplete : ¬ r.isIncomplete p.command.length = true :=
      fun hinc => Nat.not_lt.mpr hle (isIncomplete_iff.mp hinc).2
    rw [judge_unselected hp hr hnone, Logged.value_pure, if_neg (by simp [hne]),
      if_neg hcomplete, startOf_of_getElem? ht]
  | argument hc hv hplace =>
    rw [judge_selected hp hr hc, hv]
    exact anchored_iff.mp hplace
  | segment hc hv hfault =>
    rw [judge_selected hp hr hc, hv]
    exact hfault.judgeSegments

/-- A line that is cut into words is judged valid and reaches its command, or it has a fault. -/
theorem words_reach_or_agree (hp : Pipeline.ofTokens tokens = p)
    (hr : s.commands.resolve p.command = r) (hne : tokens ≠ []) (w : World) :
    ((s.judge w.network line tokens).value = .valid ∧ ∃ c inv chain,
        (s.prepare p).run.run w =
          (.ok (c, inv, chain), w.asked (s.judge w.network line tokens).runs) ∧
        Accepted s w.network p c inv chain) ∨
      ∃ e v, WordsAgree s w.network line tokens p r e v := by
  cases hc : r.command? with
  | none =>
    right
    by_cases hnil : p.command = []
    · obtain ⟨t, rest, rfl⟩ := List.exists_cons_of_ne_nil hne
      rw [← hp] at hnil
      exact ⟨_, _, .leadingPipe rfl (Pipeline.isPipe_of_command_nil hnil)⟩
    · by_cases hle : r.depth ≤ p.command.length
      · obtain ⟨t, ht, -⟩ := exists_token_of_unselected hp hr hnil hc hle
        exact ⟨_, _, .unknown hnil hc hle ht⟩
      · exact ⟨_, _, .incomplete hnil (isIncomplete_iff.mpr ⟨hc, Nat.lt_of_not_le hle⟩)⟩
  | some c =>
    cases hv : (c.validate w.network r.remaining).value with
    | error e => exact Or.inr ⟨_, _, .argument hc hv (anchored_iff.mpr rfl)⟩
    | ok parsed =>
      rcases segments_accepted_or_fault s line
          (fun seg hmem name args hwords => exists_token_of_segment hp hmem hwords) with
        ⟨hvalid, chain, hchain⟩ | ⟨fault, v, hfault⟩
      · left
        rw [judge_selected hp hr hc, hv]
        subst hr
        exact ⟨hvalid, c, _, chain, run_prepare_accepted rfl hc hv hchain, hc, rfl, rfl, hv, hchain⟩
      · exact Or.inr ⟨_, _, .segment hc hv hfault⟩

end Words

/-! ### Every line -/

section Lines

variable {s : Shell} {line : List Char} {w : World}

theorem validate_unreadable {net : Network} {fault : SyntaxFault}
    (h : Line.tokenize line = .error fault) :
    s.validate net line = pure (.invalid (byteLength line) fault.message) := by
  rw [Line.tokenize] at h
  split at h
  · next fault' hfault =>
    rw [Except.error.injEq] at h
    rw [validate, hfault, h]
  · cases h

theorem scan_tokens {tokens : List Token} (h : Line.tokenize line = .ok tokens) :
    (Line.scan line).tokens = tokens := by
  rw [((Line.tokenize_eq_ok_iff line tokens).mp h).scan_eq]

theorem validate_readable {net : Network} {tokens : List Token}
    (h : Line.tokenize line = .ok tokens) :
    s.validate net line = if tokens.isEmpty then pure .valid else s.judge net line tokens := by
  have htokens := scan_tokens h
  rw [Line.tokenize] at h
  split at h
  · cases h
  · next hfault => rw [validate, hfault, htokens]

theorem run_dispatch_unreadable {fault : SyntaxFault} (h : Line.tokenize line = .error fault) :
    (s.dispatch line).run.run w = (.error (.badSyntax fault), w) := by
  rw [dispatch, h]
  exact Action.run_bind_error (Action.run_ofExcept_error _ _ _)

theorem run_dispatch_nil (h : Line.tokenize line = .ok []) :
    (s.dispatch line).run.run w = (.ok .none, w) := by
  rw [dispatch, h, Action.run_bind_ok (Action.run_ofExcept_ok _ _ _)]
  rfl

theorem run_dispatch {tokens : List Token} (hne : tokens ≠ []) (h : Line.tokenize line = .ok tokens) :
    (s.dispatch line).run.run w = (s.perform (.ofTokens tokens)).run.run w := by
  rw [dispatch, h, Action.run_bind_ok (Action.run_ofExcept_ok _ _ _)]
  have hempty : ¬ tokens.isEmpty = true := fun h => hne (List.isEmpty_iff.mp h)
  rw [if_neg hempty]

/-- A line gets as far as one command only. -/
theorem Reaches.unique {c c' : Command} {inv inv' : Invocation} {chain chain' : FilterChain}
    {w' w'' : World} (h : Reaches s line w c inv chain w')
    (h' : Reaches s line w c' inv' chain' w'') : c = c' ∧ inv = inv' ∧ chain = chain' ∧ w' = w'' := by
  obtain ⟨tokens, -, htokens, hprepare⟩ := h
  obtain ⟨tokens', -, htokens', hprepare'⟩ := h'
  obtain rfl : tokens = tokens' := by rwa [htokens, Except.ok.injEq] at htokens'
  rw [hprepare] at hprepare'
  obtain ⟨hok, hworld⟩ := Prod.mk.inj hprepare'
  rw [Except.ok.injEq, Prod.mk.injEq, Prod.mk.injEq] at hok
  exact ⟨hok.1, hok.2.1, hok.2.2, hworld⟩

/-- A line that reaches its command has words. -/
theorem Reaches.ne_nil {c : Command} {inv : Invocation} {chain : FilterChain} {w' : World}
    (h : Reaches s line w c inv chain w') : Line.tokenize line ≠ .ok [] := by
  obtain ⟨tokens, hne, htokens, -⟩ := h
  rw [htokens, Ne, Except.ok.injEq]
  exact hne

/-- A line that reaches its command executes it, and filters what it answers. -/
theorem Reaches.run_dispatch {c : Command} {inv : Invocation} {chain : FilterChain} {w' : World}
    (h : Reaches s line w c inv chain w') :
    (s.dispatch line).run.run w =
      (do
        let output ← c.execute (s.environment chain) inv
        return chain.apply output : Action Output).run.run
      { w' with trace := w'.trace ++ [.executed inv chain.filters.length] } := by
  obtain ⟨tokens, hne, htokens, hprepare⟩ := h
  rw [Shell.run_dispatch hne htokens, perform, Action.run_bind_ok hprepare]
  rfl

/-- A line without words has no fault. -/
theorem Agree.ne_nil {net : Network} {e : ShellError} {v : Verdict} (h : Agree s net line e v) :
    Line.tokenize line ≠ .ok [] := by
  intro hnil
  cases h with
  | unreadable hfault =>
    rw [hnil] at hfault
    cases hfault
  | readable htokens hwords =>
    rw [hnil, Except.ok.injEq] at htokens
    subst htokens
    cases hwords with
    | leadingPipe ht _ => cases ht
    | incomplete hne _ => exact hne rfl
    | unknown hne _ _ _ => exact hne rfl
    | argument hc _ _ => cases hc
    | segment hc _ _ => cases hc

/-- A fault of a line is what its execution fails with. -/
theorem Agree.run_dispatch {e : ShellError} {v : Verdict} (h : Agree s w.network line e v) :
    (s.dispatch line).run.run w = (.error e, w.asked (s.validate w.network line).runs) := by
  have hnil := h.ne_nil
  cases h with
  | unreadable hfault =>
    rw [validate_unreadable hfault, Logged.runs_pure, World.asked_nil]
    exact run_dispatch_unreadable hfault
  | @readable tokens _ _ htokens hwords =>
    have hne : tokens ≠ [] := fun h => hnil (h ▸ htokens)
    rw [validate_readable htokens, if_neg (by simp [hne]), Shell.run_dispatch hne htokens, perform]
    exact Action.run_bind_error (hwords.run_prepare rfl rfl)

/-- A fault of a line is what is judged. -/
theorem Agree.validate_value {net : Network} {e : ShellError} {v : Verdict}
    (h : Agree s net line e v) : (s.validate net line).value = v := by
  have hnil := h.ne_nil
  cases h with
  | unreadable hfault => rw [validate_unreadable hfault, Logged.value_pure]
  | @readable tokens _ _ htokens hwords =>
    have hne : tokens ≠ [] := fun h => hnil (h ▸ htokens)
    rw [validate_readable htokens, if_neg (by simp [hne])]
    exact hwords.judge_value rfl rfl

/-- The verdict on a fault speaks of the end of the line or of the start of a token. -/
theorem Agree.placed {net : Network} {e : ShellError} {v : Verdict} (h : Agree s net line e v) :
    (∃ message, v = .invalid (byteLength line) message) ∨ Placed line (Line.scan line).tokens v := by
  cases h with
  | unreadable _ => exact Or.inl ⟨_, rfl⟩
  | readable htokens hwords =>
    rw [scan_tokens htokens]
    exact Or.inr hwords.placed

theorem Agree.ne_valid {net : Network} {e : ShellError} {v : Verdict} (h : Agree s net line e v) :
    v ≠ .valid := by
  rcases h.placed with ⟨message, rfl⟩ | hplaced
  · exact Verdict.noConfusion
  · exact hplaced.ne_valid

/-- A line has no words, is judged valid and reaches its command, or has a fault. -/
theorem nil_or_reaches_or_agree (s : Shell) (line : List Char) (w : World) :
    Line.tokenize line = .ok [] ∨
      ((s.validate w.network line).value = .valid ∧ ∃ c inv chain,
        Reaches s line w c inv chain (w.asked (s.validate w.network line).runs) ∧
        Accepted s w.network (.ofTokens (Line.scan line).tokens) c inv chain) ∨
      ∃ e v, Agree s w.network line e v := by
  cases htokens : Line.tokenize line with
  | error fault => exact Or.inr (Or.inr ⟨_, _, .unreadable htokens⟩)
  | ok tokens =>
    by_cases hne : tokens = []
    · exact Or.inl (by rw [hne])
    · right
      rw [validate_readable htokens, if_neg (by simp [hne]), scan_tokens htokens]
      rcases words_reach_or_agree rfl rfl hne w with
        ⟨hvalid, c, inv, chain, hprepare, haccepted⟩ | ⟨e, v, hfault⟩
      · exact Or.inl ⟨hvalid, c, inv, chain, ⟨tokens, hne, htokens, hprepare⟩, haccepted⟩
      · exact Or.inr ⟨e, v, .readable htokens hfault⟩

/-- A line that reaches its command has no fault. -/
theorem Reaches.not_agree {c : Command} {inv : Invocation} {chain : FilterChain} {w' : World}
    (h : Reaches s line w c inv chain w') {e : ShellError} {v : Verdict} :
    ¬ Agree s w.network line e v := by
  intro hfault
  obtain ⟨tokens, hne, htokens, hprepare⟩ := h
  cases hfault with
  | unreadable hbad =>
    rw [htokens] at hbad
    cases hbad
  | @readable tokens' _ _ htokens' hwords =>
    obtain rfl : tokens = tokens' := by rwa [htokens, Except.ok.injEq] at htokens'
    rw [hwords.run_prepare rfl rfl] at hprepare
    cases hprepare

/-- A line that is not judged valid has the fault that it is judged for. -/
theorem exists_agree (hne : (s.validate w.network line).value ≠ .valid) :
    ∃ e, Agree s w.network line e (s.validate w.network line).value := by
  rcases nil_or_reaches_or_agree s line w with hnil | ⟨hvalid, -⟩ | ⟨e, v, hfault⟩
  · rw [validate_readable hnil] at hne
    exact absurd rfl hne
  · exact absurd hvalid hne
  · rw [hfault.validate_value]
    exact ⟨e, hfault⟩

theorem exists_agree_of_validate {net : Network} {v : Verdict} (h : (s.validate net line).value = v)
    (hne : v ≠ .valid) : ∃ e, Agree s net line e v := by
  subst h
  exact exists_agree (w := .start net) hne

theorem validate_valid_iff :
    (s.validate w.network line).value = .valid ↔
      (Line.scan line).tokens = [] ∨ ∃ c inv chain w', Reaches s line w c inv chain w' := by
  constructor
  · intro hvalid
    rcases nil_or_reaches_or_agree s line w with hnil | ⟨-, c, inv, chain, h, -⟩ | ⟨e, v, hfault⟩
    · exact Or.inl (scan_tokens hnil)
    · exact Or.inr ⟨c, inv, chain, _, h⟩
    · exact absurd (hfault.validate_value ▸ hvalid) hfault.ne_valid
  · rintro (hnil | ⟨c, inv, chain, w', h⟩)
    · rw [validate_readable ((Line.scan_tokens_nil_iff line).mp hnil)]
      rfl
    · refine Decidable.byContradiction fun hne => ?_
      obtain ⟨e, hfault⟩ := exists_agree hne
      exact h.not_agree hfault

/-- A line that reaches its command is free of faults, and only the judgement's questions were asked. -/
theorem Reaches.accepted {c : Command} {inv : Invocation} {chain : FilterChain} {w' : World}
    (h : Reaches s line w c inv chain w') :
    Accepted s w.network (.ofTokens (Line.scan line).tokens) c inv chain ∧
      w' = w.asked (s.validate w.network line).runs := by
  rcases nil_or_reaches_or_agree s line w with
    hnil | ⟨-, c', inv', chain', h', haccepted⟩ | ⟨e, v, hfault⟩
  · exact absurd hnil h.ne_nil
  · obtain ⟨rfl, rfl, rfl, hworld⟩ := h.unique h'
    exact ⟨haccepted, hworld⟩
  · exact absurd hfault h.not_agree

/-- A fault of a line is exactly what it is judged for and what its execution fails with. -/
theorem agree_iff {e : ShellError} {v : Verdict} :
    Agree s w.network line e v ↔
      v ≠ .valid ∧ (s.validate w.network line).value = v ∧
      (s.dispatch line).run.run w = (.error e, w.asked (s.validate w.network line).runs) := by
  constructor
  · exact fun hfault => ⟨hfault.ne_valid, hfault.validate_value, hfault.run_dispatch⟩
  · rintro ⟨hne, rfl, hrun⟩
    -- the line has some fault, and what it fails with is the error at hand
    obtain ⟨e', hfault⟩ := exists_agree hne
    rw [hfault.run_dispatch, Prod.mk.injEq, Except.error.injEq] at hrun
    exact hrun.1 ▸ hfault

/-- A verdict stands at the end of the line or at the start of a token, and at the end if the line is
incomplete. -/
theorem Agree.position {net : Network} {e : ShellError}
    (h : Agree s net line e (s.validate net line).value) :
    (∀ position, (s.validate net line).value.position? = some position →
      position = byteLength line ∨ ∃ t ∈ (Line.scan line).tokens, position = t.start) ∧
    ∀ position message, (s.validate net line).value = .incomplete position message →
      position = byteLength line := by
  rcases h.placed with ⟨_, hv⟩ | ⟨_, hv⟩ | ⟨t, ht, _, hv⟩
  · rw [hv]
    refine ⟨fun position h => Or.inl (Option.some.inj h).symm, fun position message h => ?_⟩
    cases h
  · rw [hv]
    refine ⟨fun position h => Or.inl (Option.some.inj h).symm, fun position message h => ?_⟩
    exact (Verdict.incomplete.inj h).1.symm
  · rw [hv]
    refine ⟨fun position h => Or.inr ⟨t, ht, (Option.some.inj h).symm⟩, fun position message h => ?_⟩
    cases h

end Lines

/-- **Judging a line and executing it agree**: a line is judged valid exactly if it has no words or its
execution reaches the command. A line without words does nothing. A line that reaches its command is
free of faults, and what is executed is what its words select, in the world where the judgement's
questions were asked. Any other line is judged and fails before a command is executed, and
`Agree` holds of exactly that error and that verdict; the verdict stands at the end of the line or at
the start of a token, and at the end if the line is incomplete. -/
theorem validate_agrees_dispatch (s : Shell) (line : List Char) (w : World) :
    ((s.validate w.network line).value = .valid ↔
      (Line.scan line).tokens = [] ∨ ∃ c inv chain w', Reaches s line w c inv chain w') ∧
    ((Line.scan line).tokens = [] → (s.dispatch line).run.run w = (.ok .none, w)) ∧
    (∀ c inv chain w', Reaches s line w c inv chain w' →
      Accepted s w.network (.ofTokens (Line.scan line).tokens) c inv chain ∧
      w' = w.asked (s.validate w.network line).runs ∧
      (s.dispatch line).run.run w =
        (do
          let output ← c.execute (s.environment chain) inv
          return chain.apply output : Action Output).run.run
        { w' with trace := w'.trace ++ [.executed inv chain.filters.length] }) ∧
    ((s.validate w.network line).value ≠ .valid →
      ∃ e, Agree s w.network line e (s.validate w.network line).value) ∧
    (∀ e v, Agree s w.network line e v ↔
      v ≠ .valid ∧ (s.validate w.network line).value = v ∧
      (s.dispatch line).run.run w = (.error e, w.asked (s.validate w.network line).runs)) ∧
    (∀ position, (s.validate w.network line).value.position? = some position →
      position = byteLength line ∨ ∃ t ∈ (Line.scan line).tokens, position = t.start) ∧
    ∀ position message, (s.validate w.network line).value = .incomplete position message →
      position = byteLength line := by
  refine ⟨validate_valid_iff, ?_, ?_, exists_agree, fun e v => agree_iff, ?_, ?_⟩
  · exact fun hnil => run_dispatch_nil ((Line.scan_tokens_nil_iff line).mp hnil)
  · exact fun c inv chain w' h => ⟨h.accepted.1, h.accepted.2, h.run_dispatch⟩
  · intro position hposition
    obtain ⟨e, hfault⟩ : ∃ e, Agree s w.network line e (s.validate w.network line).value := by
      refine exists_agree fun hvalid => ?_
      rw [hvalid] at hposition
      cases hposition
    exact hfault.position.1 position hposition
  · intro position message hincomplete
    obtain ⟨e, hfault⟩ : ∃ e, Agree s w.network line e (s.validate w.network line).value := by
      refine exists_agree fun hvalid => ?_
      rw [hvalid] at hincomplete
      cases hincomplete
    exact hfault.position.2 position message hincomplete

end RouterShell.Shell
