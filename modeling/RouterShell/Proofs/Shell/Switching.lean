import Mathlib.Data.List.Induction
import RouterShell.Proofs.Command.Acceptance
import RouterShell.Proofs.Shell.Written

/-!
# Switching the namespace

Lines are executed one after the other, and some of them switch the namespace. This module proves that
such a run leaves no more behind than its last switch: whatever line comes next, it does the same as in a
shell that has just started and in which only the last switch was executed.

## The model

The network is held in memory, so it is known which namespaces exist. `Switches` says of a line in a
world that it gets as far as `netns` and succeeds. `AsksFor` says the same without the world: the line
types `netns`, with the name of an existing namespace or with none. `LastSwitch` goes through a run and
keeps the last line that switched, with its target.

## What is proved

What comes of a line depends on nothing but the network (`IsBuiltin.run_dispatch_alike`). A line switches
exactly if it asks for an existing namespace (`IsBuiltin.switches_iff`), whatever namespace is active, and
then it switches to what it asks for (`Switches.network_eq`); no other line changes the network
(`IsBuiltin.network_eq_of_not_switches`). So the network after a run is that of its last switch
(`LastSwitch.network_eq`). `switching_is_history_free` is what follows.
-/

namespace RouterShell.Shell

/-! ### A line and the network -/

section Lines

variable {s : Shell} {lookups : Lookups} {line : List Char} {w v : World}

/-- Two runs of a command that are alike are alike as runs of the line. -/
theorem alike_of_executing {inv : Invocation} {chain : FilterChain}
    {r r' : Except ShellError Output × World}
    (h : RunsAlike (s.executing line inv chain w) (s.executing line inv chain v) r r') :
    RunsAlike w v (r.1.map chain.apply, r.2) (r'.1.map chain.apply, r'.2) := by
  obtain ⟨hresult, hnetwork, runs, hruns, hruns'⟩ := h
  rw [launches_executing] at hruns hruns'
  exact ⟨by rw [hresult], hnetwork, runs, hruns, hruns'⟩

/-- What comes of a line depends on nothing but the network. -/
theorem IsBuiltin.run_dispatch_alike (hs : s.IsBuiltin lookups) (hnet : w.network = v.network)
    (line : List Char) :
    RunsAlike w v ((s.dispatch line).run.run w) ((s.dispatch line).run.run v) := by
  rcases nil_or_reaches_or_agree s line w with hnil | ⟨-, c, inv, chain, h, -⟩ | ⟨e, verdict, hfault⟩
  · rw [run_dispatch_nil hnil, run_dispatch_nil hnil]
    exact ⟨rfl, hnet, [], by simp, by simp⟩
  · obtain ⟨htypes, hparsed⟩ := h.types
    have hparsed' : (c.validate v.network inv.args).value = .ok inv.parsed := hnet ▸ hparsed
    have h' : Reaches s line v c inv chain _ := htypes.reaches hparsed'
    rw [h.run_dispatch_eq, h'.run_dispatch_eq]
    exact alike_of_executing
      ((hs.performs_of_reaches h (s.environment chain) inv.parsed).alike hnet)
  · have hfault' : Agree s v.network line e verdict := hnet ▸ hfault
    rw [hfault.run_dispatch, hfault'.run_dispatch]
    exact ⟨rfl, hnet, [], by simp, by simp⟩

end Lines

/-! ### Lines that switch -/

/-- Executing a line in a world gets as far as switching the namespace, with this target, and
succeeds. -/
def Switches (s : Shell) (w : World) (line : List Char) (target : Option String) : Prop :=
  ∃ c inv chain w' output, Reaches s line w c inv chain w' ∧ inv.path = ["netns"] ∧
    inv.args.head? = target ∧ ((s.dispatch line).run.run w).1 = .ok output

/-- A line asks for one of the named namespaces, or for the host's. -/
def AsksFor (s : Shell) (named : SortedMap String NamespaceState) (line : List Char)
    (target : Option String) : Prop :=
  ∃ c args chain, Types s line c ["netns"] args chain ∧ args.length ≤ 1 ∧
    (∀ name ∈ args, name ∈ named.keys) ∧ args.head? = target

section Switching

variable {s : Shell} {lookups : Lookups} {line : List Char} {w : World} {target : Option String}
  {host : NamespaceState} {named : SortedMap String NamespaceState}

/-- A line that types `netns` succeeds exactly if it gives the name of an existing namespace or none,
whatever namespace is active. -/
theorem IsBuiltin.netns_succeeds_iff (hs : s.IsBuiltin lookups)
    (hsource : w.network.source = .memory host named) {c : Command} {args : List String}
    {chain : FilterChain} (h : Types s line c ["netns"] args chain) :
    (∃ output, ((s.dispatch line).run.run w).1 = .ok output) ↔
      args.length ≤ 1 ∧ ∀ name ∈ args, name ∈ named.keys := by
  obtain rfl := eq_netns_of_mem (hs.mem_of_types h)
  rw [← accepts_netns_iff hsource]
  cases hanswer : (Session.netns.validate w.network args).value with
  | error e =>
    rw [h.run_dispatch_error hanswer]
    constructor
    · rintro ⟨_, ⟨⟩⟩
    · rintro ⟨parsed, hparsed⟩
      rw [hanswer] at hparsed
      cases hparsed
  | ok parsed =>
    refine ⟨fun _ => ⟨parsed, hanswer⟩, fun haccepts => ⟨chain.apply .none, ?_⟩⟩
    obtain ⟨-, hnames⟩ := (accepts_netns_iff hsource).mp haccepts
    have hwithin : w.network.within args.head? = .ok ⟨w.network.source, args.head?⟩ :=
      Network.within_of_mem hsource fun name hname => hnames name (List.mem_of_mem_head? hname)
    have hreach : Reaches s line w Session.netns ⟨["netns"], args, parsed⟩ chain _ := h.reaches hanswer
    have henter := run_enters (s.executing line ⟨["netns"], args, parsed⟩ chain w) args.head?
    rw [network_executing, hwithin] at henter
    rw [hreach.run_dispatch_eq]
    exact congrArg (fun r => r.1.map chain.apply) henter

/-- A line switches exactly if it asks for an existing namespace. -/
theorem IsBuiltin.switches_iff (hs : s.IsBuiltin lookups)
    (hsource : w.network.source = .memory host named) :
    Switches s w line target ↔ AsksFor s named line target := by
  constructor
  · rintro ⟨c, inv, chain, w', output, hreach, hpath, htarget, hok⟩
    have htypes := hreach.types.1
    rw [hpath] at htypes
    obtain ⟨hlength, hnames⟩ := (hs.netns_succeeds_iff hsource htypes).mp ⟨output, hok⟩
    exact ⟨c, inv.args, chain, htypes, hlength, hnames, htarget⟩
  · rintro ⟨c, args, chain, htypes, hlength, hnames, htarget⟩
    obtain ⟨output, hok⟩ := (hs.netns_succeeds_iff hsource htypes).mpr ⟨hlength, hnames⟩
    obtain rfl := eq_netns_of_mem (hs.mem_of_types htypes)
    obtain ⟨parsed, hparsed⟩ := (accepts_netns_iff hsource).mpr ⟨hlength, hnames⟩
    exact ⟨_, _, chain, _, output, htypes.reaches hparsed, rfl, htarget, hok⟩

/-- A line that switches leads to its target. -/
theorem IsBuiltin.network_eq_of_switches (hs : s.IsBuiltin lookups) (h : Switches s w line target) :
    ((s.dispatch line).run.run w).2.network = ⟨w.network.source, target⟩ := by
  obtain ⟨c, inv, chain, w', output, hreach, hpath, rfl, hok⟩ := h
  have houtcome := hs.run_dispatch_outcome w line
  generalize (s.dispatch line).run.run w = r at houtcome hok
  obtain ⟨answer, w''⟩ := r
  cases houtcome with
  | blank hnil => exact absurd hnil hreach.ne_nil
  | rejected hfault => exact absurd hfault hreach.not_agree
  | performed hreach' _ hdone hanswer =>
    obtain ⟨rfl, rfl, rfl, rfl⟩ := hreach.unique hreach'
    rw [hpath] at hdone
    change Outcome _ _ (.enters inv.args.head?) _ _ at hdone
    cases hdone with
    | absent _ =>
      rw [hanswer] at hok
      cases hok
    | entered hwithin => exact Network.eq_of_within hwithin

/-- A line that does not switch leaves the network as it was. -/
theorem IsBuiltin.network_eq_of_not_switches (hs : s.IsBuiltin lookups)
    (h : ∀ target, ¬ Switches s w line target) :
    ((s.dispatch line).run.run w).2.network = w.network := by
  have houtcome := hs.run_dispatch_outcome w line
  cases hr : (s.dispatch line).run.run w with
  | mk answer w' =>
    rw [hr] at houtcome
    cases answer with
    | error e => exact houtcome.error.2
    | ok output =>
      cases houtcome with
      | blank _ => rfl
      | @performed c inv chain _ _ _ _ hreach _ hdone _ =>
        refine hdone.network_eq fun ns hd => h inv.args.head? ?_
        exact ⟨c, inv, chain, _, output, hreach, Deed.path_of_enters hd, rfl, by rw [hr]⟩

end Switching

/-! ### Runs -/

/-- The world after some lines. -/
def runLines (s : Shell) (w : World) (lines : List (List Char)) : World :=
  lines.foldl (fun w line => ((s.dispatch line).run.run w).2) w

theorem runLines_append_singleton (s : Shell) (w : World) (lines : List (List Char))
    (line : List Char) :
    s.runLines w (lines ++ [line]) = ((s.dispatch line).run.run (s.runLines w lines)).2 := by
  simp [runLines]

/-- The last line of a run that switched the namespace, with its target. -/
inductive LastSwitch (s : Shell) (w : World) :
    List (List Char) → Option (List Char × Option String) → Prop where
  /-- No line was executed. -/
  | start : LastSwitch s w [] none
  /-- The last line switches. -/
  | switched {lines : List (List Char)} {last : Option (List Char × Option String)}
      {line : List Char} {target : Option String} :
      LastSwitch s w lines last → Switches s (s.runLines w lines) line target →
      LastSwitch s w (lines ++ [line]) (some (line, target))
  /-- The last line does not switch. -/
  | stayed {lines : List (List Char)} {last : Option (List Char × Option String)}
      {line : List Char} :
      LastSwitch s w lines last → (∀ target, ¬ Switches s (s.runLines w lines) line target) →
      LastSwitch s w (lines ++ [line]) last

theorem exists_lastSwitch (s : Shell) (w : World) (lines : List (List Char)) :
    ∃ last, LastSwitch s w lines last := by
  induction lines using List.reverseRecOn with
  | nil => exact ⟨none, .start⟩
  | append_singleton lines line ih =>
    obtain ⟨last, hlast⟩ := ih
    by_cases hswitch : ∃ target, Switches s (s.runLines w lines) line target
    · obtain ⟨target, htarget⟩ := hswitch
      exact ⟨_, hlast.switched htarget⟩
    · exact ⟨last, hlast.stayed (not_exists.mp hswitch)⟩

section Runs

variable {s : Shell} {lookups : Lookups} {w : World} {host : NamespaceState}
  {named : SortedMap String NamespaceState} {lines : List (List Char)}
  {last : Option (List Char × Option String)}

/-- After a run from the host's namespace, the network is read in the namespace that its last switch
asked for. -/
theorem IsBuiltin.network_eq_of_lastSwitch (hs : s.IsBuiltin lookups)
    (hw : w.network = ⟨.memory host named, none⟩) (h : LastSwitch s w lines last) :
    (s.runLines w lines).network = ⟨.memory host named, last.bind Prod.snd⟩ ∧
      ∀ line target, last = some (line, target) → AsksFor s named line target := by
  induction h with
  | start =>
    refine ⟨hw, fun line target hnone => ?_⟩
    cases hnone
  | switched _ hswitch ih =>
    obtain ⟨hnet, -⟩ := ih
    have hsource := congrArg Network.source hnet
    refine ⟨?_, ?_⟩
    · rw [runLines_append_singleton, hs.network_eq_of_switches hswitch, hsource]
      rfl
    · rintro line target hlast
      obtain ⟨rfl, rfl⟩ := Prod.mk.inj (Option.some.inj hlast)
      exact (hs.switches_iff hsource).mp hswitch
  | stayed _ hstay ih =>
    obtain ⟨hnet, hasks⟩ := ih
    rw [runLines_append_singleton, hs.network_eq_of_not_switches hstay]
    exact ⟨hnet, hasks⟩

/-- The same network is reached by the last switch alone. -/
theorem IsBuiltin.network_eq_of_lastSwitch_alone (hs : s.IsBuiltin lookups)
    (hw : w.network = ⟨.memory host named, none⟩) (h : LastSwitch s w lines last) :
    (s.runLines w (last.map Prod.fst).toList).network = ⟨.memory host named, last.bind Prod.snd⟩ := by
  obtain ⟨-, hasks⟩ := hs.network_eq_of_lastSwitch hw h
  cases last with
  | none => exact hw
  | some switch =>
    obtain ⟨line, target⟩ := switch
    have hsource : w.network.source = .memory host named := congrArg Network.source hw
    have hswitch : Switches s w line target := (hs.switches_iff hsource).mpr (hasks line target rfl)
    exact (hs.network_eq_of_switches hswitch).trans (by rw [hsource]; rfl)

/-- What is asked for exists. -/
theorem AsksFor.mem {line : List Char} {name : String} (h : AsksFor s named line (some name)) :
    name ∈ named.keys := by
  obtain ⟨c, args, chain, -, -, hnames, hhead⟩ := h
  exact hnames name (List.mem_of_mem_head? hhead)

end Runs

/-- **Switching the namespace is free of history**: a shell is built whatever tools were found, and after
any lines, executed from the host's namespace over a network held in memory, the active namespace is
the target of the last line that switched, or the host's, and it exists. Any further line answers the
same, starts the same programs and leads to the same network as in a shell in which only that last
switch was executed; and the judgement on a line, its completion and the prompt are the same. Whether a
line that types `netns` succeeds depends on its arguments only, whatever namespace is active; in
particular `netns` with a name, however it has to be quoted, succeeds exactly if the namespace exists. -/
theorem switching_is_history_free (config : Config) (tools : Toolbox) (lookups : Lookups) (disk : Disk)
    (launcher : Launcher) :
    ∃ s, build config tools lookups disk launcher = .ok s ∧
      ∀ (host : NamespaceState) (named : SortedMap String NamespaceState),
        (∀ (fresh w : World) (lines : List (List Char)),
          fresh = .start ⟨.memory host named, none⟩ → s.runLines fresh lines = w →
          (∀ name, w.network.active? = some name → name ∈ named.keys) ∧
          (∃ last, LastSwitch s fresh lines last) ∧
          ∀ last, LastSwitch s fresh lines last →
            w.network.active? = last.bind Prod.snd ∧
            ∀ v, s.runLines fresh (last.map Prod.fst).toList = v →
              (∀ line, RunsAlike w v ((s.dispatch line).run.run w) ((s.dispatch line).run.run v)) ∧
              (∀ line, s.validate w.network line = s.validate v.network line) ∧
              (∀ line cursor, s.complete w.network line cursor = s.complete v.network line cursor) ∧
              ∀ hostname, s.prompt w.network hostname = s.prompt v.network hostname) ∧
        ∀ w : World, w.network.source = .memory host named →
          (∀ line c args chain, Types s line c ["netns"] args chain →
            ((∃ output, ((s.dispatch line).run.run w).1 = .ok output) ↔
              args.length ≤ 1 ∧ ∀ name ∈ args, name ∈ named.keys)) ∧
          ∀ name, (∃ output, ((s.dispatch (Line.ofWords ["netns", name])).run.run w).1 = .ok output) ↔
            name ∈ named.keys := by
  obtain ⟨s, hbuild, hs, -, -⟩ := exists_build config tools lookups disk launcher
  refine ⟨s, hbuild, fun host named => ⟨?_, fun w hsource => ⟨?_, fun name => ?_⟩⟩⟩
  · rintro fresh w lines rfl rfl
    have hstart : (World.start ⟨.memory host named, none⟩).network = ⟨.memory host named, none⟩ := rfl
    refine ⟨fun name hname => ?_, exists_lastSwitch s _ lines, fun last hlast => ⟨?_, ?_⟩⟩
    · obtain ⟨last, hlast⟩ := exists_lastSwitch s (.start ⟨.memory host named, none⟩) lines
      obtain ⟨hnet, hasks⟩ := hs.network_eq_of_lastSwitch hstart hlast
      rw [hnet] at hname
      obtain ⟨⟨line, target⟩, rfl, htarget⟩ := Option.bind_eq_some_iff.mp hname
      obtain rfl : target = some name := htarget
      exact (hasks line _ rfl).mem
    · rw [(hs.network_eq_of_lastSwitch hstart hlast).1]
    · rintro v rfl
      have hnet := (hs.network_eq_of_lastSwitch hstart hlast).1.trans
        (hs.network_eq_of_lastSwitch_alone hstart hlast).symm
      refine ⟨fun line => hs.run_dispatch_alike hnet line, ?_, ?_, ?_⟩
      · rw [hnet]
        exact fun _ => rfl
      · rw [hnet]
        exact fun _ _ => rfl
      · rw [hnet]
        exact fun _ => rfl
  · exact fun line c args chain htypes => hs.netns_succeeds_iff hsource htypes
  · have htypes := hs.types_ofWords netns_mem [name]
    refine (hs.netns_succeeds_iff hsource htypes).trans ?_
    simp

end RouterShell.Shell
