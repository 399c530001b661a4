import RouterShell.Proofs.Command.Acceptance
import RouterShell.Proofs.Shell.Written

/-!
# Tools stay in the namespace

Several commands hand something over to an external tool, some of them in the foreground and the monitor
in the background, and each makes up the arguments by itself. This module proves that none of them gets
around the active namespace.

## The model

`Deed.use?` gives the tool of a command and the arguments for it; neither the world nor its namespace
has a part in it. `Confined` says what becomes of them in a world: in the host's namespace the tool is
started itself, in another one it is told to enter it, or it is started through `ip`, and without `ip`
nothing is started.

## What is proved

A deed starts the program that the toolbox gives for its tool, once, or fails for the reason that the
toolbox gives (`Outcome.launches_of_use`, `Outcome.refused_of_use`), and a deed without a tool starts
nothing (`Outcome.launches_eq`). A command is only offered if its tool was found (`has_of_use`).
`tools_stay_in_namespace` is what follows for every line.
-/

namespace RouterShell

/-! ### The program that runs a tool -/

namespace Toolbox

variable {t : Toolbox} {tool exe ip : String}

theorem exists_path_of_has (h : t.has tool = true) : ∃ exe, t.path? tool = some exe :=
  Option.isSome_iff_exists.mp h

theorem require_of_path (h : t.path? tool = some exe) : t.require tool = .ok exe := by
  rw [require, h]

theorem invocation_host (h : t.path? tool = some exe) (args : List String) :
    t.invocation none tool args = .ok ⟨exe, args⟩ := by
  rw [invocation, require_of_path h]
  rfl

/-- `ip` enters a namespace itself. -/
theorem invocation_ip (h : t.path? "ip" = some exe) (ns : String) (args : List String) :
    t.invocation (some ns) "ip" args = .ok ⟨exe, ["-n", ns] ++ args⟩ := by
  rw [invocation, require_of_path h]
  rfl

/-- Any other tool is started by `ip`. -/
theorem invocation_through (h : t.path? tool = some exe) (htool : tool ≠ "ip")
    (hip : t.path? "ip" = some ip) (ns : String) (args : List String) :
    t.invocation (some ns) tool args = .ok ⟨ip, ["netns", "exec", ns, exe] ++ args⟩ := by
  rw [invocation, require_of_path h, require_of_path hip]
  exact if_neg htool

theorem invocation_refused (h : t.path? tool = some exe) (htool : tool ≠ "ip")
    (hip : t.path? "ip" = none) (ns : String) (args : List String) :
    t.invocation (some ns) tool args = .error (.unavailable "ip") := by
  have hrequire : t.require "ip" = .error (.unavailable "ip") := by rw [require, hip]
  rw [invocation, require_of_path h, hrequire]
  exact if_neg htool

end Toolbox

/-! ### What a deed starts -/

section Outcomes

variable {env : Environment} {w w' : World} {d : Deed} {result : Except ShellError Output}
  {tool : String} {args : List String}

/-- A deed without a tool starts nothing. -/
theorem Outcome.launches_eq (h : Outcome env w d result w') (hd : d.use? = none) :
    w'.launches = w.launches := by
  cases h with
  | read _ => exact World.launches_asked w _
  | absent _ => rfl
  | entered _ => rfl
  | stopped => exact World.launches_quiet w
  | _ => cases hd

/-- A deed with a tool starts the program that runs it, once, or there is none and the deed fails for
that reason. -/
theorem Outcome.use_cases (h : Outcome env w d result w') (hd : d.use? = some (tool, args)) :
    (∃ run, env.tools.invocation w.network.active? tool args = .ok run ∧
      w'.launches = w.launches ++ [run]) ∨
    ∃ fault, env.tools.invocation w.network.active? tool args = .error fault ∧
      result = .error (.command fault) ∧ w'.launches = w.launches := by
  cases h with
  | unlaunched hrun _ =>
    cases hd
    exact Or.inl ⟨_, hrun, by simp [Event.launch?]⟩
  | ran hrun _ =>
    cases hd
    exact Or.inl ⟨_, hrun, by simp [Event.launch?]⟩
  | unstarted hrun _ =>
    cases hd
    exact Or.inl ⟨_, hrun, by simp [Event.launch?]⟩
  | watching hrun _ =>
    cases hd
    exact Or.inl ⟨_, hrun, by simp [Event.launch?]⟩
  | unavailable hfault =>
    cases hd
    exact Or.inr ⟨_, hfault, rfl, rfl⟩
  | unwatchable hfault =>
    cases hd
    exact Or.inr ⟨_, hfault, rfl, World.launches_quiet w⟩
  | _ => cases hd

theorem Outcome.launches_of_use {run : Run} (h : Outcome env w d result w')
    (hd : d.use? = some (tool, args))
    (hrun : env.tools.invocation w.network.active? tool args = .ok run) :
    w'.launches = w.launches ++ [run] := by
  rcases h.use_cases hd with ⟨run', hrun', hlaunches⟩ | ⟨fault, hfault, -, -⟩
  · obtain rfl := Except.ok.inj (hrun.symm.trans hrun')
    exact hlaunches
  · rw [hrun] at hfault
    cases hfault

theorem Outcome.refused_of_use {fault : CommandFault} (h : Outcome env w d result w')
    (hd : d.use? = some (tool, args))
    (hfault : env.tools.invocation w.network.active? tool args = .error fault) :
    result = .error (.command fault) ∧ w'.launches = w.launches := by
  rcases h.use_cases hd with ⟨run, hrun, -⟩ | ⟨fault', hfault', hresult, hlaunches⟩
  · rw [hfault] at hrun
    cases hrun
  · obtain rfl := Except.error.inj (hfault.symm.trans hfault')
    exact ⟨hresult, hlaunches⟩

end Outcomes

/-! ### Commands and their tools -/

section Tools

variable {config : Config} {args toolArgs : List String} {tool : String}

/-- Only an aspect of an interface has a tool. -/
theorem Deed.use_ofInterface (h : (ofInterface args).use? = some (tool, toolArgs)) :
    tool = "ethtool" ∧ 1 < args.length := by
  unfold ofInterface at h
  split at h
  · split at h
    · cases h
      exact ⟨rfl, by simp⟩
    · cases h
  · cases h

theorem Deed.use_ofMonitor (h : (ofMonitor args).use? = some (tool, toolArgs)) : tool = "ip" := by
  unfold ofMonitor at h
  split at h
  · cases h
  · split at h
    · cases h
    · cases h
      rfl

/-- The tool of a command that accepts its arguments was found. -/
theorem has_of_use {tools : Toolbox} {lookups : Lookups} {net : Network} {path : List String}
    {c : Command} (h : (path, c) ∈ builtinCommands tools lookups)
    (haccepts : Accepts (c.validate net args))
    (huse : (Deed.of config path args).use? = some (tool, toolArgs)) : tools.has tool = true := by
  cases offered_of_mem h with
  | interface =>
    obtain ⟨rfl, hlength⟩ := Deed.use_ofInterface huse
    have hmax := length_le_of_accepts_interface haccepts
    cases hhas : tools.has "ethtool" with
    | true => rfl
    | false =>
      rw [hhas] at hmax
      exact absurd hlength (Nat.not_lt.mpr hmax)
  | enable hip =>
    cases huse
    exact hip
  | disable hip =>
    cases huse
    exact hip
  | reset hethtool =>
    cases huse
    exact hethtool
  | renegotiate hethtool =>
    cases huse
    exact hethtool
  | identify hethtool =>
    cases huse
    exact hethtool
  | monitor hip =>
    obtain rfl := Deed.use_ofMonitor huse
    exact hip
  | tool ht hhas =>
    rw [Deed.of_tool ht] at huse
    cases huse
    exact hhas
  | address _ _ | neighbour _ _ | rule _ _ | route _ _ =>
    rw [Deed.of_three] at huse
    cases huse
  -- the others only read or switch the namespace
  | _ => cases huse

end Tools

/-! ### Every line -/

/-- What becomes in a world of a tool and its arguments, where `exe` is the path of the tool and `r` is
the answer and the world after it. -/
structure Confined (tools : Toolbox) (tool exe : String) (args : List String) (w : World)
    (r : Except ShellError Output × World) : Prop where
  /-- In the host's namespace, the tool is started. -/
  host : w.network.active? = none → r.2.launches = w.launches ++ [⟨exe, args⟩]
  /-- In another one, `ip` is told to enter it. -/
  inside : ∀ ns, w.network.active? = some ns → tool = "ip" →
    r.2.launches = w.launches ++ [⟨exe, ["-n", ns] ++ args⟩]
  /-- Any other tool is started inside it by `ip`. -/
  through : ∀ ns ip, w.network.active? = some ns → tool ≠ "ip" → tools.path? "ip" = some ip →
    r.2.launches = w.launches ++ [⟨ip, ["netns", "exec", ns, exe] ++ args⟩]
  /-- Without `ip`, nothing is started, and the line fails for that reason. -/
  refused : ∀ ns, w.network.active? = some ns → tool ≠ "ip" → tools.path? "ip" = none →
    r.1 = .error (.command (.unavailable "ip")) ∧ r.2.launches = w.launches

/-- A deed whose tool was found is confined. -/
theorem Outcome.confined {env : Environment} {w w' : World} {d : Deed}
    {result : Except ShellError Output} {tool exe : String} {args : List String}
    (h : Outcome env w d result w') (hd : d.use? = some (tool, args))
    (hexe : env.tools.path? tool = some exe) :
    Confined env.tools tool exe args w (result, w') where
  host hnone := by
    refine h.launches_of_use hd ?_
    rw [hnone]
    exact Toolbox.invocation_host hexe args
  inside ns hns htool := by
    subst htool
    refine h.launches_of_use hd ?_
    rw [hns]
    exact Toolbox.invocation_ip hexe ns args
  through ns ip hns htool hip := by
    refine h.launches_of_use hd ?_
    rw [hns]
    exact Toolbox.invocation_through hexe htool hip ns args
  refused ns hns htool hip := by
    refine h.refused_of_use hd ?_
    rw [hns]
    exact Toolbox.invocation_refused hexe htool hip ns args

namespace Shell

section Lines

variable {s : Shell} {lookups : Lookups} {line : List Char} {w w' : World} {c : Command}
  {inv : Invocation} {chain : FilterChain}

/-- What is true of a command is true of its line: its questions start nothing, and the filters change
no error. -/
theorem confined_of_executing {tools : Toolbox} {tool exe : String} {args : List String}
    {r : Except ShellError Output × World}
    (h : Confined tools tool exe args (s.executing line inv chain w) r) :
    Confined tools tool exe args w (r.1.map chain.apply, r.2) where
  host hnone := (h.host hnone).trans (by rw [launches_executing])
  inside ns hns htool := (h.inside ns hns htool).trans (by rw [launches_executing])
  through ns ip hns htool hip := (h.through ns ip hns htool hip).trans (by rw [launches_executing])
  refused ns hns htool hip := by
    obtain ⟨hresult, hlaunches⟩ := h.refused ns hns htool hip
    rw [launches_executing] at hlaunches
    exact ⟨by rw [hresult]; rfl, hlaunches⟩

/-- The tool of the command that a line reaches was found. -/
theorem IsBuiltin.exists_path_of_use (hs : s.IsBuiltin lookups)
    (h : Reaches s line w c inv chain w') {tool : String} {args : List String}
    (huse : (Deed.of s.config inv.path inv.args).use? = some (tool, args)) :
    ∃ exe, s.tools.path? tool = some exe :=
  Toolbox.exists_path_of_has
    (has_of_use (hs.mem_of_reaches h) ⟨inv.parsed, h.accepted.1.parsed⟩ huse)

/-- A line that reaches no command starts nothing. -/
theorem launches_of_not_reaches (h : ∀ c inv chain w', ¬ Reaches s line w c inv chain w') :
    ((s.dispatch line).run.run w).2.launches = w.launches := by
  rcases nil_or_reaches_or_agree s line w with hnil | ⟨-, c, inv, chain, hreach, -⟩ | ⟨e, v, hfault⟩
  · rw [run_dispatch_nil hnil]
  · exact absurd hreach (h _ _ _ _)
  · rw [hfault.run_dispatch]
    exact World.launches_asked w _

end Lines

/-- **No tool gets around the active namespace**: a shell is built whatever tools were found, and in
every world a line starts at most one program. A line that reaches no command, or one that uses no tool,
starts none. A line that reaches a command that uses a tool is confined: the tool was found, and it
is started in the active namespace, itself or through `ip`, with exactly the arguments with which the
same command starts it in the host's namespace. Without `ip` it is not started at all in any other
namespace, and the line fails. -/
theorem tools_stay_in_namespace (config : Config) (tools : Toolbox) (lookups : Lookups) (disk : Disk)
    (launcher : Launcher) :
    ∃ s, build config tools lookups disk launcher = .ok s ∧
      ∀ (w : World) (line : List Char) (r : Except ShellError Output × World),
        (s.dispatch line).run.run w = r →
        ((∀ c inv chain w', ¬ Reaches s line w c inv chain w') → r.2.launches = w.launches) ∧
        ∀ c inv chain w', Reaches s line w c inv chain w' →
          ((Deed.of config inv.path inv.args).use? = none → r.2.launches = w.launches) ∧
          ∀ tool args, (Deed.of config inv.path inv.args).use? = some (tool, args) →
            ∃ exe, tools.path? tool = some exe ∧ Confined tools tool exe args w r ∧
              ∀ (v : World) (filters : FilterChain) (parsed : ParsedArgs),
                v.network.active? = none →
                ((c.execute (s.environment filters) ⟨inv.path, inv.args, parsed⟩).run.run v).2.launches =
                  v.launches ++ [⟨exe, args⟩] := by
  obtain ⟨s, hbuild, hs, rfl, rfl⟩ := exists_build config tools lookups disk launcher
  refine ⟨s, hbuild, ?_⟩
  rintro w line r rfl
  refine ⟨launches_of_not_reaches, fun c inv chain w' hreach => ⟨fun hnone => ?_, ?_⟩⟩
  · rw [hreach.run_dispatch_eq]
    have houtcome := hs.outcome_of_reaches hreach chain inv.parsed (s.executing line inv chain w)
    have hlaunches := houtcome.launches_eq hnone
    rw [launches_executing] at hlaunches
    exact hlaunches
  · intro tool args huse
    obtain ⟨exe, hexe⟩ := hs.exists_path_of_use hreach huse
    have hconfined : ∀ filters parsed v, Confined s.tools tool exe args v
        ((c.execute (s.environment filters) ⟨inv.path, inv.args, parsed⟩).run.run v) :=
      fun filters parsed v => (hs.outcome_of_reaches hreach filters parsed v).confined huse hexe
    refine ⟨exe, hexe, ?_, fun v filters parsed hv => (hconfined filters parsed v).host hv⟩
    rw [hreach.run_dispatch_eq]
    exact confined_of_executing (hconfined chain inv.parsed _)

end Shell

end RouterShell
