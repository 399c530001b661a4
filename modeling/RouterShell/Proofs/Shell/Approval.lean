import RouterShell.Proofs.Shell.Splicing

/-!
# The judgement on accepted proposals

What may stand in a line is decided twice: before a word is typed by what is proposed, and afterwards by the
judgement on the line. This module says how far the two agree on lines of plain words without pipes.

## The model

The judged line is the text with an accepted proposal and a blank behind it. Its last token is the proposed
word (`LastWord`), so the judgement turns this word down if it names the start of this token. A name of the
tree is never turned down there (`LastWord.not_invalid_of_name`), and a word that a command offers is turned
down if the command turns it down at its own place (`LastWord.invalid_iff`), of which `Command.Welcomes`
knows the reasons.

## What is proved

A proposed word is turned down only if its command has as many arguments already as it takes, or if the word
is a name that its table misreads; and in the first case it is turned down (`proposals_turned_down`).
-/

namespace RouterShell.Shell

open Text Line CommandTree

/-- The last word of a line that has no separating pipes. -/
structure LastWord (line : List Char) (words : List String) (w : String) (tokens : List Token)
    (t : Token) : Prop where
  /-- The line is read. -/
  readable : tokenize line = .ok (tokens ++ [t])
  /-- It has no segments. -/
  pipeline : Pipeline.ofTokens (tokens ++ [t]) = ⟨words ++ [w], []⟩
  /-- There is one token for each of the other words. -/
  length_eq : tokens.length = words.length
  /-- The last word comes last. -/
  start_lt : ∀ u ∈ tokens, u.start < t.start

section Unpiped

variable {text : List Char}

/-- A separating pipe is a pipe in the text. -/
theorem not_isPipe_of_plain (h : Plain text) (hpipe : '|' ∉ text) :
    ∀ t ∈ (scan text).tokens, t.isPipe = false := by
  obtain ⟨tokens, hscan, -, hstand⟩ := scan_plain h
  rw [hscan]
  intro t ht
  obtain ⟨before, after, hin⟩ := hstand t ht
  rw [Bool.eq_false_iff]
  intro hisPipe
  have htext := hin.text_eq
  rw [((isPipe_iff t).mp hisPipe).2] at htext
  refine hpipe ?_
  rw [htext]
  exact List.mem_append_right before List.mem_cons_self

theorem lastPipe_eq_none (h : Plain text) (hpipe : '|' ∉ text) :
    lastPipe? (scan text).tokens = none := by
  rw [lastPipe?, Option.map_eq_none_iff, List.find?_eq_none]
  intro t ht
  rw [not_isPipe_of_plain h hpipe t (List.mem_reverse.mp ht)]
  exact Bool.false_ne_true

/-- Without pipes the commands are asked for proposals. -/
theorem complete_unpiped (s : Shell) (net : Network) (h : Plain text) (hpipe : '|' ∉ text) :
    s.complete net text (byteLength text) = s.commandCandidates net text := by
  rw [complete, takeBytes_byteLength]
  simp only [lastPipe_eq_none h hpipe]

/-- In the line with an accepted proposal and a blank, the proposed word is the last one, at the place of
the word that was being typed. -/
theorem exists_lastWord (h : Plain text) (hpipe : '|' ∉ text) (w : String) :
    ∃ tokens t, LastWord (beforeTyped text ++ quote w ++ [' ']) (finishedWords text) w tokens t ∧
      t.start = byteLength (beforeTyped text) := by
  have hbefore := h.beforeTyped
  have hpipe' : '|' ∉ beforeTyped text := by
    rw [← beforeTyped_append_typedWord text, List.mem_append, not_or] at hpipe
    exact hpipe.1
  obtain ⟨tokens, hscan, htexts, hstand⟩ := scan_plain hbefore
  have hunpiped := not_isPipe_of_plain hbefore hpipe'
  have hwritten := tokenize_written h (word_quote w)
  rw [hscan, String.ofList_toList] at hwritten
  rw [hscan] at hunpiped
  refine ⟨tokens, ⟨w, needsQuotes w, byteLength (beforeTyped text)⟩, ?_, rfl⟩
  constructor
  · -- the blank at the end adds nothing
    have hline := ((tokenize_eq_ok_iff _ _).mp hwritten).scan_append (boundary_cons (c := ' ') (by decide) [])
    rw [scanFrom_between_blank (by decide)] at hline
    rw [tokenize, hline]
    simp [prependTokens, scanFrom, Mode.finish, Tail.done, Scan.fault]
  · have hall : ∀ t ∈ tokens ++ [⟨w, needsQuotes w, byteLength (beforeTyped text)⟩],
        t.isPipe = false := by
      intro t ht
      rcases List.mem_append.mp ht with ht | ht
      · exact hunpiped t ht
      · rw [List.mem_singleton.mp ht]
        exact not_isPipe_of_quote w _
    rw [Pipeline.ofTokens, Pipeline.ofTokensFrom_unpiped hall, List.map_append, htexts]
    rfl
  · rw [← List.length_map (f := Token.text), htexts]
    rfl
  · intro u hu
    obtain ⟨before, after, hin⟩ := hstand u hu
    exact hin.start_lt

end Unpiped

/-! ### Who turns the last word down -/

section LastWord

variable {s : Shell} {net : Network} {line : List Char} {words : List String} {w : String}
  {tokens : List Token} {t : Token} {message : String}

/-- A fault is said of the last token if it has the index of this token. -/
theorem LastWord.anchored_iff (h : LastWord line words w tokens t) {i : Nat} {message' : String} :
    anchored line (tokens ++ [t]) i message' = .invalid t.start message ↔
      i = words.length ∧ message' = message := by
  rw [anchored, ← h.length_eq]
  rcases Nat.lt_trichotomy i tokens.length with hlt | rfl | hgt
  · -- another token begins elsewhere
    have hstart := h.start_lt _ (List.getElem_mem hlt)
    rw [List.getElem?_append_left hlt, List.getElem?_eq_getElem hlt]
    simp only [Verdict.invalid.injEq]
    constructor
    · rintro ⟨heq, -⟩
      omega
    · rintro ⟨heq, -⟩
      omega
  · rw [List.getElem?_concat_length]
    simp
  · -- behind the last token something is missing, so nothing is invalid
    rw [List.getElem?_eq_none (by rw [List.length_append, List.length_singleton]; omega)]
    simp only [reduceCtorEq, false_iff, not_and]
    omega

theorem LastWord.validate_eq (h : LastWord line words w tokens t) :
    s.validate net line = s.judge net line (tokens ++ [t]) := by
  rw [validate_readable h.readable, if_neg (by simp)]

/-- If the words lead to a command, the last one is turned down if the command says so. -/
theorem LastWord.invalid_iff (h : LastWord line words w tokens t) {r : Resolution Command}
    (hr : s.commands.resolve (words ++ [w]) = r) {c : Command} (hc : r.command? = some c) :
    (s.validate net line).value = .invalid t.start message ↔
      ∃ e, (c.validate net r.remaining).value = .error e ∧
        r.depth + e.column?.getD 0 = words.length ∧ e.message = message := by
  rw [h.validate_eq, judge_selected h.pipeline hr hc]
  cases (c.validate net r.remaining).value with
  | ok parsed =>
    constructor
    · intro hvalid
      cases hvalid
    · rintro ⟨e, he, -⟩
      cases he
  | error e =>
    dsimp only
    rw [h.anchored_iff]
    constructor
    · exact fun hplace => ⟨e, rfl, hplace⟩
    · rintro ⟨e', he, hplace⟩
      obtain rfl := Except.error.inj he
      exact hplace

/-- A name at the level to which the other words lead is not turned down. -/
theorem LastWord.not_invalid_of_name (h : LastWord line words w tokens t) {names : List String}
    {m : Level Command} (hway : Descends s.commands.root words names m) (hne : w ≠ "")
    (hmem : w ∈ m.keys) : (s.validate net line).value ≠ .invalid t.start message := by
  have hresolve : s.commands.resolve (words ++ [w]) =
      resolveFrom 0 [] s.commands.root (words ++ [w]) := if_neg (by simp)
  obtain ⟨-, -, hdepth, hnone⟩ := hway.resolveFrom_name hne hmem
  rw [← hresolve] at hdepth hnone
  cases hc : (s.commands.resolve (words ++ [w])).command? with
  | none =>
    have hincomplete : (s.commands.resolve (words ++ [w])).isIncomplete (words ++ [w]).length = true := by
      rw [isIncomplete_iff, List.length_append, List.length_singleton]
      exact ⟨hc, hnone hc⟩
    rw [h.validate_eq, judge_unselected h.pipeline rfl hc, Logged.value_pure, if_neg (by simp),
      if_pos hincomplete]
    intro hinvalid
    cases hinvalid
  | some c =>
    -- the name belongs to the path, so the command counts its arguments from behind it
    intro hinvalid
    obtain ⟨e, -, hplace, -⟩ := (h.invalid_iff rfl hc).mp hinvalid
    omega

end LastWord

/-! ### Proposals -/

section Proposed

variable {s : Shell} {lookups : Lookups} {net : Network} {text : List Char} {w : String}

/-- Words that lead to a level are not all words of a command, as no path goes on where another one ends. -/
theorem IsBuiltin.command_eq_none (hs : s.IsBuiltin lookups) {words names : List String}
    {m : Level Command} (hway : Descends s.commands.root words names m) :
    (s.commands.resolve words).command? = none := by
  cases hc : (s.commands.resolve words).command? with
  | none => rfl
  | some c =>
    have hmem := hs.mem_of_resolve hc
    rw [hway.resolve_path] at hmem
    obtain ⟨w, hw⟩ := (hway.levelAt hs.levelAt).continues c hmem
    exact absurd hw (not_follows_builtin hmem w)

/-- Once words select a command, further words are arguments. -/
theorem IsBuiltin.resolve_append (hs : s.IsBuiltin lookups) {words : List String} {r : Resolution Command}
    (hr : s.commands.resolve words = r) {c : Command} (hc : r.command? = some c) :
    r.depth + r.remaining.length = words.length ∧
      ∀ more, s.commands.resolve (words ++ more) = { r with remaining := r.remaining ++ more } := by
  rcases descends_cases s.commands.root words with
    ⟨names, m, hway⟩ | ⟨used, word, rest, names, m, rfl, hway, hend⟩
  · rw [← hr, hs.command_eq_none hway] at hc
    cases hc
  · rcases hend with hnothing | ⟨name, a, hleaf⟩
    · rw [← hr, (hway.resolve_end word rest).1 hnothing] at hc
      cases hc
    · have hselected := fun rest => (hway.resolve_end word rest).2 name a hleaf
      obtain rfl := (hselected rest).symm.trans hr
      constructor
      · rw [List.length_append, List.length_cons]
        exact Nat.add_right_comm used.length 1 rest.length
      · intro more
        rw [List.append_assoc, List.cons_append, hselected]

/-- Behind the path of a command its completer proposes. -/
theorem IsBuiltin.complete_arguments (hs : s.IsBuiltin lookups) {path args : List String} {c : Command}
    (hmem : (path, c) ∈ builtinCommands s.tools lookups) (h : Plain text) (hpipe : '|' ∉ text)
    (hwords : finishedWords text = path ++ args) (net : Network) :
    s.complete net text (byteLength text) = c.completer.candidates net (afterWords path.length text) := by
  have hresolve := resolve_builtin hs hmem args
  rw [← hwords] at hresolve
  rw [complete_unpiped s net h hpipe]
  have hcompletes := commandCandidates_completes s net h
  generalize s.commandCandidates net text = answer at hcompletes ⊢
  cases hcompletes with
  | level hway =>
    have hnone := hs.command_eq_none hway
    rw [hresolve] at hnone
    cases hnone
  | @nothing used rest names last m hused hway hnothing =>
    have hnone := congrArg Resolution.command? ((hway.resolve_end last rest).1 hnothing)
    rw [← hused, hresolve] at hnone
    cases hnone
  | @arguments used rest names last name m command hused hway hleaf =>
    have hcommand := (hway.resolve_end last rest).2 name command hleaf
    rw [← hused, hresolve] at hcommand
    simp only [Resolution.mk.injEq, Option.some.injEq] at hcommand
    obtain ⟨hlength, rfl, -, -⟩ := hcommand
    rw [hlength]

/-- A proposed word is turned down only by a command that has no room for it, or as a misread name; and a
command without room turns it down. -/
theorem IsBuiltin.turned_down (hs : s.IsBuiltin lookups) {line : List Char} {tokens : List Token}
    {t : Token} (hlast : LastWord line (finishedWords text) w tokens t) (hne : w ≠ "")
    (hproposes : Proposes s lookups net text w) {r : Resolution Command}
    (hr : s.commands.resolve (finishedWords text) = r) :
    (∀ message, (s.validate net line).value = .invalid t.start message →
      ∃ command, r.command? = some command ∧
        (command.maxArgs = some r.remaining.length ∨
          ∃ param, r.remaining.getLast? = some param ∧ lookups.Misread param w)) ∧
    ∀ command, r.command? = some command → command.maxArgs = some r.remaining.length →
      (s.validate net line).value = .invalid t.start "too many arguments" := by
  cases hproposes with
  | name hway hmem =>
    have hnone := hs.command_eq_none hway
    rw [hr] at hnone
    refine ⟨fun message hinvalid => ?_, fun command hcommand => ?_⟩
    · exact absurd hinvalid (hlast.not_invalid_of_name hway hne hmem)
    · rw [hnone] at hcommand
      cases hcommand
  | @word used args names last name m c offered hwords hway hleaf hwelcomes hoffered =>
    -- the word is one argument more for the same command
    have hbefore := (hway.resolve_end last args).2 name c hleaf
    have hafter := (hway.resolve_end last (args ++ [w])).2 name c hleaf
    rw [← hwords, hr] at hbefore
    rw [← List.cons_append, ← List.append_assoc, ← hwords] at hafter
    have hlength : used.length + 1 + args.length = (finishedWords text).length := by
      rw [hwords, List.length_append, List.length_cons]
      omega
    subst hbefore
    refine ⟨fun message hinvalid => ⟨c, rfl, ?_⟩, fun command hcommand hfull => ?_⟩
    · obtain ⟨e, he, hplace, -⟩ := (hlast.invalid_iff hafter rfl).mp hinvalid
      obtain ⟨column, fault, rfl, hreason⟩ := hwelcomes.refused args w e hoffered hne he
      refine hreason ?_
      have hcolumn : used.length + 1 + column = (finishedWords text).length := hplace
      omega
    · obtain rfl := Option.some.inj hcommand
      exact (hlast.invalid_iff hafter rfl).mpr ⟨_, hwelcomes.full args w hfull, hlength, rfl⟩

end Proposed

/-- **A proposal is turned down only for want of room, or if it is misread.** A shell is built whatever tools
were found. In every state of the network and for every line of plain words without pipes, behind the path
of a command its completer proposes, however many arguments there are.

A proposal for the end of the line is written into it, and a blank behind it. If the line is then judged to
be at fault at the place of the proposed word, the words before it select a command, and this command has as
many arguments there already as it takes, or the word is the value of a parameter of routes and a name that
the parameter's table does not read as one. And where the command has no room, every proposal is turned
down so. -/
theorem proposals_turned_down (config : Config) (tools : Toolbox) (lookups : Lookups) (disk : Disk)
    (launcher : Launcher) :
    ∃ s, build config tools lookups disk launcher = .ok s ∧
      ∀ net text, Plain text → '|' ∉ text →
        (∀ path command args, (path, command) ∈ builtinCommands tools lookups →
          finishedWords text = path ++ args →
          s.complete net text (byteLength text) =
            command.completer.candidates net (afterWords path.length text)) ∧
        ∀ r, s.commands.resolve (finishedWords text) = r →
          ∀ c ∈ (s.complete net text (byteLength text)).value, ∃ w, c.text = String.ofList (quote w) ∧
            ∀ v, (s.validate net (c.splice text ++ [' '])).value = v →
              (∀ message, v = .invalid (byteLength text - c.replace) message →
                ∃ command, r.command? = some command ∧
                  (command.maxArgs = some r.remaining.length ∨
                    ∃ param, r.remaining.getLast? = some param ∧ lookups.Misread param w)) ∧
              ∀ command, r.command? = some command → command.maxArgs = some r.remaining.length →
                v = .invalid (byteLength text - c.replace) "too many arguments" := by
  obtain ⟨s, hbuild, hs, -, rfl⟩ := exists_build config tools lookups disk launcher
  refine ⟨s, hbuild, fun net text h hpipe => ⟨fun path command args hmem hwords =>
    hs.complete_arguments hmem h hpipe hwords net, ?_⟩⟩
  rintro r rfl c hc
  rw [complete_unpiped s net h hpipe] at hc
  obtain ⟨w, hne, -, rfl, hproposes⟩ := hs.proposes h hc
  obtain ⟨tokens, t, hlast, hstart⟩ := exists_lastWord h hpipe w
  have hplace : byteLength text - byteLength (typedWord text) = t.start := by
    rw [hstart, byteLength_eq_typed text, Nat.add_sub_cancel]
  refine ⟨w, rfl, ?_⟩
  rintro v rfl
  rw [splice_typed, hplace]
  exact hs.turned_down hlast hne hproposes rfl

/-- Behind `netns blue `, a line without fault, the namespace is proposed once more, and turned down when it is
accepted. -/
theorem namespace_proposed_twice :
    ∃ s, bare = .ok s ∧
      ∃ net, (s.validate net "netns blue ".toList).value = .valid ∧
        ⟨"blue", 0⟩ ∈ (s.complete net "netns blue ".toList 11).value ∧
        (s.validate net ((⟨"blue", 0⟩ : Candidate).splice "netns blue ".toList ++ [' '])).value =
          .invalid 11 "too many arguments" := by
  obtain ⟨s, hbare, hs⟩ := exists_bare
  have hvalid : tokenize "netns blue ".toList = .ok [⟨"netns", false, 0⟩, ⟨"blue", false, 6⟩] := by
    decide
  have hinvalid : tokenize ((⟨"blue", 0⟩ : Candidate).splice "netns blue ".toList ++ [' ']) =
      .ok [⟨"netns", false, 0⟩, ⟨"blue", false, 6⟩, ⟨"blue", false, 11⟩] := by decide
  refine ⟨s, hbare, ⟨.memory .empty [("blue", .empty)], none⟩, ?_, ?_, ?_⟩
  · rw [validate_readable hvalid, if_neg (by decide),
      judge_selected rfl (resolve_builtin hs netns_mem ["blue"]) rfl]
    rfl
  · have hplain : Plain "netns blue ".toList := by decide
    have hcomplete := hs.complete_arguments netns_mem hplain (by decide) rfl
      ⟨.memory .empty [("blue", .empty)], none⟩
    rw [show 11 = byteLength "netns blue ".toList from rfl, hcomplete]
    exact List.mem_singleton.mpr rfl
  · rw [validate_readable hinvalid, if_neg (by decide),
      judge_selected rfl (resolve_builtin hs netns_mem ["blue", "blue"]) rfl]
    rfl

end RouterShell.Shell
