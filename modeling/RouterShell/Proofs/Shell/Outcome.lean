import RouterShell.Proofs.Command.Deed
import RouterShell.Proofs.Shell.Judgement

/-!
# What a line can do

A shell is built whatever tools were found (`exists_build`), and every line does one of three things in
it: nothing, if it has no words; nothing but ask the questions of its judgement, if it has a fault; or
else what comes of the deed of its command. This module says so once (`run_dispatch_outcome`). All that
is said elsewhere of lines and of runs of lines is read off the three cases.

The first such result is stated here: a line that is turned away changes nothing, and whatever a line
fails with, the namespace stays the one it was (`rejected_line_changes_nothing`).
-/

namespace RouterShell.Shell

/-- A shell has exactly the commands that its tools provide. -/
def IsBuiltin (s : Shell) (lookups : Lookups) : Prop :=
  CommandTree.Represents s.commands (builtinCommands s.tools lookups)

/-- Building a shell never fails. -/
theorem exists_build (config : Config) (tools : Toolbox) (lookups : Lookups) (disk : Disk)
    (launcher : Launcher) :
    ∃ s, build config tools lookups disk launcher = .ok s ∧ s.IsBuiltin lookups ∧
      s.config = config ∧ s.tools = tools := by
  obtain ⟨t, ht, hrep⟩ := exists_registerAll tools lookups
  exact ⟨⟨t, .builtin, config, tools, disk, launcher⟩, by rw [build, ht], hrep, rfl, rfl⟩

/-- The shell of a host with no tools and no files, on which programs do nothing. -/
def bare : Except ShellError Shell :=
  build (.default "/root") (.ofList []) .builtin ⟨[], []⟩ ⟨fun _ => .ok 0, fun _ => .ok []⟩

theorem exists_bare : ∃ s, bare = .ok s ∧ s.IsBuiltin .builtin := by
  obtain ⟨s, hbare, hs, -⟩ : ∃ s, bare = .ok s ∧ _ := exists_build _ _ _ _ _
  exact ⟨s, hbare, hs⟩

theorem isBuiltin_of_bare {s : Shell} (h : bare = .ok s) : s.IsBuiltin .builtin := by
  obtain ⟨s', h', hs⟩ := exists_bare
  obtain rfl := Except.ok.inj (h.symm.trans h')
  exact hs

section Lines

variable {s : Shell} {lookups : Lookups} {line : List Char} {w w' : World} {c : Command}
  {inv : Invocation} {chain : FilterChain}

/-- The command that a line reaches is one of the shell's. -/
theorem IsBuiltin.mem_of_reaches (hs : s.IsBuiltin lookups) (h : Reaches s line w c inv chain w') :
    (inv.path, c) ∈ builtinCommands s.tools lookups := by
  have haccepted := h.accepted.1
  rw [haccepted.path]
  exact hs.mem_of_resolve haccepted.command

/-- The monitor does not accept a line without arguments. -/
theorem monitorValidate_nil (net : Network) (parsed : ParsedArgs) :
    (Session.monitorValidate net []).value ≠ .ok parsed := by
  rintro ⟨⟩

/-- The command that a line reaches performs its deed, in every environment. What values its arguments
have does not matter. -/
theorem IsBuiltin.performs_of_reaches (hs : s.IsBuiltin lookups)
    (h : Reaches s line w c inv chain w') (env : Environment) (parsed : ParsedArgs) :
    Performs env (Deed.of env.config inv.path inv.args)
      (c.execute env ⟨inv.path, inv.args, parsed⟩) := by
  have hmem := hs.mem_of_reaches h
  show Performs env (Deed.of env.config inv.path (Invocation.mk inv.path inv.args parsed).args) _
  refine performs_of_mem hmem fun hpath hnil => ?_
  rw [hpath] at hmem
  have hparsed := h.accepted.1.parsed
  rw [eq_monitor_of_mem hmem, hnil] at hparsed
  exact monitorValidate_nil _ _ hparsed

/-- What comes of the command that a line reaches, whatever filters it is executed with and whatever
values its arguments have. -/
theorem IsBuiltin.outcome_of_reaches (hs : s.IsBuiltin lookups)
    (h : Reaches s line w c inv chain w') (filters : FilterChain) (parsed : ParsedArgs) (v : World) :
    Outcome (s.environment filters) v (Deed.of s.config inv.path inv.args)
      ((c.execute (s.environment filters) ⟨inv.path, inv.args, parsed⟩).run.run v).1
      ((c.execute (s.environment filters) ⟨inv.path, inv.args, parsed⟩).run.run v).2 :=
  (hs.performs_of_reaches h (s.environment filters) parsed).outcome v

/-- The world in which the command of a line is executed. -/
def executing (s : Shell) (line : List Char) (inv : Invocation) (chain : FilterChain) (w : World) :
    World :=
  (w.asked (s.validate w.network line).runs).noted [.executed inv chain.filters.length]

@[simp] theorem network_executing : (s.executing line inv chain w).network = w.network := rfl

@[simp] theorem launches_executing : (s.executing line inv chain w).launches = w.launches := by
  simp [executing, Event.launch?]

theorem run_bind_return {α β : Type} (x : Action α) (f : α → β) (w : World) :
    (do let a ← x; return f a : Action β).run.run w =
      ((x.run.run w).1.map f, (x.run.run w).2) := by
  rcases hx : x.run.run w with ⟨e | a, w'⟩
  · rw [Action.run_bind_error hx]
    rfl
  · rw [Action.run_bind_ok hx]
    rfl

/-- A line that reaches its command answers what the command answers, filtered. -/
theorem Reaches.run_dispatch_eq (h : Reaches s line w c inv chain w') :
    (s.dispatch line).run.run w =
      let r := (c.execute (s.environment chain) inv).run.run (s.executing line inv chain w)
      (r.1.map chain.apply, r.2) := by
  rw [h.run_dispatch, run_bind_return, h.accepted.2]
  rfl

end Lines

/-- What can come of a line in a world: what it answers or fails with, and the world that it leaves. -/
inductive LineOutcome (s : Shell) (lookups : Lookups) (w : World) (line : List Char) :
    Except ShellError Output → World → Prop where
  /-- The line has no words. -/
  | blank : Line.tokenize line = .ok [] → LineOutcome s lookups w line (.ok .none) w
  /-- The line has a fault. -/
  | rejected {e : ShellError} {v : Verdict} : Agree s w.network line e v →
      LineOutcome s lookups w line (.error e) (w.asked (s.validate w.network line).runs)
  /-- The line reaches a command, which performs its deed. -/
  | performed {c : Command} {inv : Invocation} {chain : FilterChain} {reached : World}
      {result answer : Except ShellError Output} {w' : World} :
      Reaches s line w c inv chain reached →
      (inv.path, c) ∈ builtinCommands s.tools lookups →
      Outcome (s.environment chain) (s.executing line inv chain w)
        (Deed.of s.config inv.path inv.args) result w' →
      answer = result.map chain.apply →
      LineOutcome s lookups w line answer w'

section Outcomes

variable {s : Shell} {lookups : Lookups}

/-- Executing a line has one of the outcomes. -/
theorem IsBuiltin.run_dispatch_outcome (hs : s.IsBuiltin lookups) (w : World) (line : List Char) :
    LineOutcome s lookups w line ((s.dispatch line).run.run w).1 ((s.dispatch line).run.run w).2 := by
  rcases nil_or_reaches_or_agree s line w with hnil | ⟨-, c, inv, chain, h, -⟩ | ⟨e, v, hfault⟩
  · rw [run_dispatch_nil hnil]
    exact .blank hnil
  · rw [h.run_dispatch_eq]
    exact .performed h (hs.mem_of_reaches h)
      (hs.outcome_of_reaches h chain inv.parsed (s.executing line inv chain w)) rfl
  · rw [hfault.run_dispatch]
    exact .rejected hfault

/-- What a line fails with is a rejection if the line has a fault, and it leaves the network as it was. -/
theorem LineOutcome.error {w w' : World} {line : List Char} {e : ShellError}
    (h : LineOutcome s lookups w line (.error e) w') :
    (e.isRejection = true → w' = w.asked (s.validate w.network line).runs) ∧
      w'.network = w.network := by
  cases h with
  | rejected _ => exact ⟨fun _ => rfl, rfl⟩
  | @performed _ _ chain _ result _ _ _ _ houtcome hanswer =>
    cases result with
    | ok output => cases hanswer
    | error e' =>
      obtain rfl : e = e' := Except.error.inj hanswer
      obtain ⟨hlate, hnet⟩ := houtcome.error
      refine ⟨fun hrejected => ?_, hnet⟩
      rw [hlate] at hrejected
      cases hrejected

end Outcomes

/-- **A line that is turned away changes nothing**: a shell is built whatever tools were found, and in
every world, if a line fails because it cannot be read, selects no command, or has an argument or a
filter that is not accepted, then the network, with its active namespace, and the monitor stay as they
were, and nothing has happened but that the questions of the judgement were asked: no program was handed
to the launcher, no monitor was stopped, and nothing was printed. And whatever a line fails with, the
network is still read in the same namespace. -/
theorem rejected_line_changes_nothing (config : Config) (tools : Toolbox) (lookups : Lookups)
    (disk : Disk) (launcher : Launcher) :
    ∃ s, build config tools lookups disk launcher = .ok s ∧
      ∀ (w : World) (line : List Char) (e : ShellError) (w' : World),
        (s.dispatch line).run.run w = (.error e, w') →
        (e.isRejection = true →
          w'.network = w.network ∧ w'.monitor = w.monitor ∧ w'.monitors = w.monitors ∧
          w'.trace = w.trace ++ (s.validate w.network line).runs.map Event.asked) ∧
        w'.network = w.network := by
  obtain ⟨s, hbuild, hs, -, -⟩ := exists_build config tools lookups disk launcher
  refine ⟨s, hbuild, fun w line e w' hrun => ?_⟩
  have houtcome := hs.run_dispatch_outcome w line
  rw [hrun] at houtcome
  dsimp only at houtcome
  obtain ⟨hrejected, hnet⟩ := houtcome.error
  refine ⟨fun he => ?_, hnet⟩
  rw [hrejected he]
  exact ⟨rfl, rfl, rfl, rfl⟩

end RouterShell.Shell
