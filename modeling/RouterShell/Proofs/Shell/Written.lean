import RouterShell.Proofs.Line.RoundTrip
import RouterShell.Proofs.Shell.Outcome

/-!
# What a line types

What a line selects does not depend on the world: its words select a command and leave its arguments,
and its segments make up filters, or not. Only whether the command accepts the arguments is asked of
the network. `Types` is the part that the line alone decides; with the command's answer it decides
whether the command is reached (`Types.reaches`, `Types.run_dispatch_error`).

Every command can be typed with any arguments: by writing out its path and quoting the words that need
it (`IsBuiltin.types_ofWords`).
-/

namespace RouterShell

namespace Line

/-- The line of some words, none of which is a separating pipe. -/
def ofWords (words : List String) : List Char :=
  join (words.map fun word => ⟨word, true, 0⟩)

theorem ofTokensFrom_words (words : List String) (i : Nat) :
    Pipeline.ofTokensFrom i (words.map fun word => (⟨word, true, 0⟩ : Token)) = ⟨words, []⟩ := by
  have hunpiped : ∀ t ∈ words.map fun word => (⟨word, true, 0⟩ : Token), t.isPipe = false := by
    intro t ht
    obtain ⟨word, -, rfl⟩ := List.mem_map.mp ht
    rfl
  rw [Pipeline.ofTokensFrom_unpiped hunpiped, List.map_map]
  exact congrArg (Pipeline.mk · []) (List.map_id words)

/-- The words of a line that is written out are read back, and it has no segments. -/
theorem tokenize_ofWords (words : List String) :
    ∃ tokens, tokenize (ofWords words) = .ok tokens ∧ Pipeline.ofTokens tokens = ⟨words, []⟩ :=
  ⟨_, tokenize_of_isLine (isLine_join _),
    (ofTokensFrom_rereadFrom _ 0 0).trans (ofTokensFrom_words words 0)⟩

end Line

namespace Shell

/-- A line types a command: its words select the path of the command and leave the arguments, and its
segments make up the filters. -/
structure Types (s : Shell) (line : List Char) (c : Command) (path args : List String)
    (chain : FilterChain) : Prop where
  /-- The line is read. -/
  readable : Line.tokenize line = .ok (Line.scan line).tokens
  /-- Its words select the command. -/
  command : (s.commands.resolve (Pipeline.ofTokens (Line.scan line).tokens).command).command? = some c
  /-- They select it by its path. -/
  path : (s.commands.resolve (Pipeline.ofTokens (Line.scan line).tokens).command).path = path
  /-- The words behind the path are the arguments. -/
  args : (s.commands.resolve (Pipeline.ofTokens (Line.scan line).tokens).command).remaining = args
  /-- The segments describe the filters. -/
  filters : s.filters.buildChain (Pipeline.ofTokens (Line.scan line).tokens).segments = .ok chain

section Typed

variable {s : Shell} {line : List Char} {c : Command} {path args : List String}
  {chain : FilterChain} {w : World}

theorem Types.ne_nil (h : Types s line c path args chain) : (Line.scan line).tokens ≠ [] := by
  intro hnil
  have hc := h.command
  rw [hnil] at hc
  cases hc

/-- A command is reached if it accepts its arguments. -/
theorem Types.reaches {parsed : ParsedArgs} (h : Types s line c path args chain)
    (hv : (c.validate w.network args).value = .ok parsed) :
    Reaches s line w c ⟨path, args, parsed⟩ chain (w.asked (c.validate w.network args).runs) := by
  obtain ⟨hreadable, hc, rfl, rfl, hchain⟩ := h
  exact ⟨_, Types.ne_nil ⟨hreadable, hc, rfl, rfl, hchain⟩, hreadable,
    run_prepare_accepted rfl hc hv hchain⟩

/-- A line fails for the reason that the command gives if it does not accept its arguments. -/
theorem Types.run_dispatch_error {e : ShellError} (h : Types s line c path args chain)
    (hv : (c.validate w.network args).value = .error e) :
    (s.dispatch line).run.run w = (.error e, w.asked (c.validate w.network args).runs) := by
  have hne := h.ne_nil
  obtain ⟨hreadable, hc, rfl, rfl, hchain⟩ := h
  rw [run_dispatch hne hreadable, perform]
  exact Action.run_bind_error (run_prepare_refused rfl hc hv)

/-- A command that is reached was typed, and accepts its arguments. -/
theorem Reaches.types {inv : Invocation} {w' : World} (h : Reaches s line w c inv chain w') :
    Types s line c inv.path inv.args chain ∧ (c.validate w.network inv.args).value = .ok inv.parsed := by
  have haccepted := h.accepted.1
  obtain ⟨tokens, -, htokens, -⟩ := h
  refine ⟨⟨?_, haccepted.command, haccepted.path.symm, haccepted.args.symm, haccepted.filters⟩,
    haccepted.parsed⟩
  rw [scan_tokens htokens, htokens]

/-- The command that a line types is one of the shell's. -/
theorem IsBuiltin.mem_of_types {lookups : Lookups} (hs : s.IsBuiltin lookups)
    (h : Types s line c path args chain) : (path, c) ∈ builtinCommands s.tools lookups := by
  rw [← h.path]
  exact hs.mem_of_resolve h.command

/-- Every command is typed by writing out its path and some arguments. -/
theorem IsBuiltin.types_ofWords {lookups : Lookups} (hs : s.IsBuiltin lookups)
    (h : (path, c) ∈ builtinCommands s.tools lookups) (args : List String) :
    Types s (Line.ofWords (path ++ args)) c path args ⟨[]⟩ := by
  obtain ⟨tokens, htokens, hpipeline⟩ := Line.tokenize_ofWords (path ++ args)
  obtain rfl := scan_tokens htokens
  have hresolve : s.commands.resolve
      (Pipeline.ofTokens (Line.scan (Line.ofWords (path ++ args))).tokens).command =
        ⟨path.length, some c, path, args⟩ := by
    rw [hpipeline]
    exact resolve_builtin hs h args
  refine ⟨htokens, ?_, ?_, ?_, ?_⟩
  · rw [hresolve]
  · rw [hresolve]
  · rw [hresolve]
  · rw [hpipeline]
    rfl

end Typed

end Shell

end RouterShell
