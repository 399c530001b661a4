import RouterShell.Proofs.Command.Welcome
import RouterShell.Proofs.Shell.Confinement
import RouterShell.Proofs.Shell.Switching

/-!
# A line that is judged valid succeeds

Commands check much while they are executed: whether an interface is there, whether an aspect is known,
whether a namespace can be entered. This module says which of these checks can fail once a line is judged
valid over a network held in memory, and it is none of them.

## The model

What is left are mishaps outside the shell. `Mishap` has a constructor for each of them in the deed of a
command: the launcher fails, in the foreground or in the background, or a tool has to be started in another
namespace and there is no `ip` for it. `Unreadable` is the one mishap of a command that only reads.

`Network.Held` says that the network is in memory and that its active namespace exists, as it does in every
world that lines lead to (`IsBuiltin.exists_held`). Over such a network all questions are answered
(`Network.Held.links` and its like), so actions that only ask them answer too (`Answers`).

## What is proved

`valid_line_succeeds`: a line that is judged valid fails exactly with the mishaps of its command.
-/

namespace RouterShell

/-! ### Questions about a network in memory -/

/-- A network is held in memory, and the records of its active namespace are these. -/
def Network.Held (net : Network) (state : NamespaceState) : Prop :=
  ∃ host named, net.source = .memory host named ∧ Network.stateOf host named net.active? = .ok state

section Held

variable {net : Network} {state : NamespaceState}

theorem Network.Held.links (h : net.Held state) : net.links.value = .ok state.links := by
  obtain ⟨host, named, hsource, hstate⟩ := h
  simp only [Network.links, hsource, hstate]
  rfl

theorem Network.Held.addresses (h : net.Held state) (sel : Selection) :
    (net.addresses sel).value = .ok (state.selectAddresses sel) := by
  obtain ⟨host, named, hsource, hstate⟩ := h
  simp only [Network.addresses, hsource, hstate]
  rfl

theorem Network.Held.routes (h : net.Held state) (sel : RouteSelection) :
    (net.routes sel).value = .ok (state.selectRoutes sel) := by
  obtain ⟨host, named, hsource, hstate⟩ := h
  simp only [Network.routes, hsource, hstate]
  rfl

theorem Network.Held.neighbours (h : net.Held state) (sel : Selection) :
    (net.neighbours sel).value = .ok (state.selectNeighbours sel) := by
  obtain ⟨host, named, hsource, hstate⟩ := h
  simp only [Network.neighbours, hsource, hstate]
  rfl

theorem Network.Held.rules (h : net.Held state) (sel : Selection) :
    (net.rules sel).value = .ok (state.selectRules sel) := by
  obtain ⟨host, named, hsource, hstate⟩ := h
  simp only [Network.rules, hsource, hstate]
  rfl

theorem Network.Held.namespaces (h : net.Held state) : ∃ names, net.namespaces.value = .ok names := by
  obtain ⟨host, named, hsource, -⟩ := h
  exact ⟨named.keys, by simp only [Network.namespaces, hsource]; rfl⟩

/-- A word that is read as an interface is the name of one. -/
theorem exists_link_of_parse {physical : Bool} {links : List Link} (hlinks : net.links.value = .ok links)
    {word : String} {v : Value} (h : ((Completer.ofLinks physical).parse net word).value = .ok v) :
    ∃ l ∈ links, l.name = word := by
  simp only [Completer.ofLinks, Logged.value_bind, Logged.value_pure] at h
  split at h
  · next name index hfind =>
    have hname := List.find?_some hfind
    have hmem := List.mem_of_find?_eq_some hfind
    simp only [Completer.linkNames, Logged.value_bind, hlinks, Logged.value_pure, List.mem_mergeSort,
      List.mem_map, List.mem_filter] at hmem
    obtain ⟨l, ⟨hl, -⟩, hpair⟩ := hmem
    exact ⟨l, hl, by rw [← beq_iff_eq.mp hname, ← hpair]⟩
  · cases h

end Held

/-! ### Actions that answer -/

section Answers

variable {α β : Type} {net : Network} {state : NamespaceState}

/-- An action gives a value in every world with this network, and leaves the network as it is. -/
def Answers (net : Network) (x : Action α) : Prop :=
  ∀ w, w.network = net → ∃ a w', x.run.run w = (.ok a, w') ∧ w'.network = net

theorem Answers.pure (a : α) : Answers net (pure a : Action α) :=
  fun w hw => ⟨a, w, rfl, hw⟩

/-- A question that is answered may be asked first. -/
theorem Answers.query_bind {question : Network → Logged (Except QueryFault α)} {a : α}
    (h : (question net).value = .ok a) {f : α → Action β} (hf : Answers net (f a)) :
    Answers net (Action.query question >>= f) := by
  intro w hw
  have hquery := Action.run_query question w
  rw [hw, h] at hquery
  obtain ⟨b, w', hrun, hw'⟩ := hf (w.asked (question net).runs) hw
  exact ⟨b, w', (Action.run_bind_ok hquery).trans hrun, hw'⟩

end Answers

/-! ### Commands that read -/

section Commands

variable {net : Network} {state : NamespaceState} {env : Environment} {tools : Toolbox} {lookups : Lookups}
  {path args : List String} {c : Command} {parsed : ParsedArgs}

/-- The path of the command that shows the file of `ifstate`. -/
def ifstateConfigPath : List String := ["show", "ifstate", "config"]

/-- The file that it shows: the one that the settings name, or the usual one. -/
def ifstatePath (config : Config) : String :=
  if config.ifstate.configFile = "" then Show.ifstateFile else config.ifstate.configFile

theorem run_ifstateConfig (inv : Invocation) (w : World) :
    ((Show.ifstateConfig.execute env inv).run.run w).1 =
      match env.disk.readText (ifstatePath env.config) with
      | .error e => .error (.command (.unreadable (ifstatePath env.config) e))
      | .ok text => .ok (.text (String.ofList (Text.trimEnd text.toList))) := by
  simp only [Show.ifstateConfig, Command.bare, ifstatePath]
  cases env.disk.readText
    (if env.config.ifstate.configFile = "" then Show.ifstateFile else env.config.ifstate.configFile) with
  | error e => rfl
  | ok text => rfl

/-- What the check of an interface accepts is an interface that is there, and an aspect that is known. -/
theorem of_interface_accepted {ethtool : Bool} {name : String} {rest : List String}
    (h : ((Show.interface ethtool).validate net (name :: rest)).value = .ok parsed) :
    (∃ v, (Completer.links.parse net name).value = .ok v) ∧
      ∀ aspect, rest.head? = some aspect → (Show.aspectOption? aspect).isSome = true := by
  change (Show.interfaceValidate ethtool net (name :: rest)).value = _ at h
  rw [interfaceValidate_value] at h
  cases hpositional : (Arguments.positional (Show.interfaceCompleter ethtool) 0
      (some (Show.interfaceMax ethtool)) net (name :: rest)).value with
  | error e =>
    rw [hpositional] at h
    cases h
  | ok accepted =>
    rw [hpositional] at h
    constructor
    · have hparse := (accepts_positional_iff.mp ⟨accepted, hpositional⟩).2.2 name rfl
      cases ethtool with
      | true => exact hparse
      | false => exact hparse
    · intro aspect haspect
      rw [List.head?_eq_getElem?] at haspect
      rw [Except.bind, List.getElem?_cons_succ, haspect, Option.elim_some, aspectChecked] at h
      split at h
      · assumption
      · cases h

/-- Showing interfaces answers, also if it is asked for one that the check accepted. -/
theorem answers_interface (hheld : net.Held state) {ethtool : Bool} {inv : Invocation}
    (haccepted : ((Show.interface ethtool).validate net inv.args).value = .ok parsed)
    (hdeed : Deed.ofInterface inv.args = .reads) :
    Answers net ((Show.interface ethtool).execute env inv) := by
  obtain ⟨path, args, values⟩ := inv
  match args with
  | [] => exact .query_bind hheld.links (.pure _)
  | [name] =>
    obtain ⟨v, hparse⟩ := (of_interface_accepted haccepted).1
    obtain ⟨l, hl, hname⟩ := exists_link_of_parse hheld.links hparse
    have hfind : (state.links.find? fun l => l.name == name).isSome = true :=
      List.find?_isSome.mpr ⟨l, hl, beq_iff_eq.mpr hname⟩
    obtain ⟨found, hfound⟩ := Option.isSome_iff_exists.mp hfind
    refine .query_bind hheld.links ?_
    rw [hfound]
    exact .query_bind (hheld.addresses _) (.pure _)
  | name :: aspect :: rest =>
    have haspect := (of_interface_accepted haccepted).2 aspect rfl
    obtain ⟨option, hoption⟩ := Option.isSome_iff_exists.mp haspect
    simp only [Deed.ofInterface, hoption] at hdeed
    cases hdeed

/-- A command that only reads answers what it accepted, unless it reads a file. -/
theorem Offered.answers (hc : Offered tools lookups path c) (hheld : net.Held state)
    (haccepted : (c.validate net args).value = .ok parsed)
    (hdeed : Deed.of env.config path args = .reads) (values : ParsedArgs) :
    path = ifstateConfigPath ∧ c = Show.ifstateConfig ∨
      path ≠ ifstateConfigPath ∧ Answers net (c.execute env ⟨path, args, values⟩) := by
  cases hc with
  | ifstateConfig _ => exact Or.inl ⟨rfl, rfl⟩
  | interface => exact Or.inr ⟨by simp [ifstateConfigPath], answers_interface hheld haccepted hdeed⟩
  | address _ _ =>
    exact Or.inr ⟨by simp [ifstateConfigPath], .query_bind (hheld.addresses _) (.pure _)⟩
  | neighbour _ _ =>
    exact Or.inr ⟨by simp [ifstateConfigPath], .query_bind (hheld.neighbours _) (.pure _)⟩
  | rule _ _ =>
    exact Or.inr ⟨by simp [ifstateConfigPath], .query_bind (hheld.rules _) (.pure _)⟩
  | route _ _ =>
    exact Or.inr ⟨by simp [ifstateConfigPath], .query_bind (hheld.routes _) (.pure _)⟩
  | fdb =>
    exact Or.inr ⟨by simp [ifstateConfigPath], .query_bind (hheld.neighbours _) (.pure _)⟩
  | namespaces =>
    obtain ⟨names, hnames⟩ := hheld.namespaces
    exact Or.inr ⟨by simp [ifstateConfigPath], .query_bind hnames (.pure _)⟩
  | help => exact Or.inr ⟨by simp [ifstateConfigPath], .pure _⟩
  | exit => exact Or.inr ⟨by simp [ifstateConfigPath], .pure _⟩
  | monitor _ =>
    change Deed.ofMonitor args = .reads at hdeed
    unfold Deed.ofMonitor at hdeed
    split at hdeed
    · cases hdeed
    · split at hdeed <;> cases hdeed
  | tool ht _ =>
    rw [Deed.of_tool ht] at hdeed
    cases hdeed
  | enable _ | disable _ | reset _ | renegotiate _ | identify _ | netns => cases hdeed

end Commands

/-! ### Mishaps -/

/-- What can go wrong in a deed whose tool was found, in a namespace that exists. -/
inductive Mishap (tools : Toolbox) (launcher : Launcher) (ns : Option String) : Deed → ShellError → Prop where
  /-- The launcher reports a failure of a program in the foreground. -/
  | launch {tool : String} {args : List String} {run : Run} {fault : LaunchFault} :
      tools.invocation ns tool args = .ok run → launcher.run run = .error fault →
      Mishap tools launcher ns (.runs tool args) (.process fault)
  /-- The launcher reports a failure of the monitor. -/
  | stream {args : List String} {run : Run} {fault : LaunchFault} :
      tools.invocation ns "ip" args = .ok run → launcher.stream run = .error fault →
      Mishap tools launcher ns (.watches args) (.process fault)
  /-- Another tool than `ip` has to be started in a namespace, and there is no `ip`. -/
  | outside {tool name : String} {args : List String} :
      ns = some name → tool ≠ "ip" → tools.path? "ip" = none →
      Mishap tools launcher ns (.runs tool args) (.command (.unavailable "ip"))

/-- A tool that was found is only missed inside a namespace, for want of `ip`. -/
theorem Toolbox.of_invocation_error {t : Toolbox} {ns : Option String} {tool : String} {args : List String}
    {fault : CommandFault} (hfound : t.has tool = true) (h : t.invocation ns tool args = .error fault) :
    (∃ name, ns = some name) ∧ tool ≠ "ip" ∧ t.path? "ip" = none ∧ fault = .unavailable "ip" := by
  obtain ⟨exe, hexe⟩ := exists_path_of_has hfound
  cases ns with
  | none =>
    rw [invocation_host hexe] at h
    cases h
  | some name =>
    by_cases htool : tool = "ip"
    · subst htool
      rw [invocation_ip hexe] at h
      cases h
    · cases hip : t.path? "ip" with
      | some ip =>
        rw [invocation_through hexe htool hip] at h
        cases h
      | none =>
        rw [invocation_refused hexe htool hip] at h
        exact ⟨⟨name, rfl⟩, htool, rfl, (Except.error.inj h).symm⟩

section Mishaps

variable {tools : Toolbox} {launcher : Launcher} {ns : Option String} {tool : String} {args : List String}
  {run : Run} {e : ShellError}

theorem Mishap.error_cases {d : Deed} (h : Mishap tools launcher ns d e) :
    (∃ fault, e = .process fault) ∨ e = .command (.unavailable "ip") := by
  cases h with
  | launch _ _ => exact Or.inl ⟨_, rfl⟩
  | stream _ _ => exact Or.inl ⟨_, rfl⟩
  | outside _ _ _ => exact Or.inr rfl

/-- A tool that can be started goes wrong in the launcher only. -/
theorem mishap_runs_iff (hfound : tools.has tool = true) (hrun : tools.invocation ns tool args = .ok run) :
    Mishap tools launcher ns (.runs tool args) e ↔
      ∃ fault, launcher.run run = .error fault ∧ e = .process fault := by
  constructor
  · intro hmishap
    cases hmishap with
    | launch hrun' hfault =>
      obtain rfl := Except.ok.inj (hrun.symm.trans hrun')
      exact ⟨_, hfault, rfl⟩
    | outside hns htool hip =>
      obtain ⟨exe, hexe⟩ := Toolbox.exists_path_of_has hfound
      rw [hns, Toolbox.invocation_refused hexe htool hip] at hrun
      cases hrun
  · rintro ⟨fault, hfault, rfl⟩
    exact .launch hrun hfault

/-- A tool that cannot be started goes wrong for that reason. -/
theorem mishap_unavailable_iff (hfound : tools.has tool = true) {fault : CommandFault}
    (hfault : tools.invocation ns tool args = .error fault) :
    Mishap tools launcher ns (.runs tool args) e ↔ e = .command fault := by
  obtain ⟨⟨name, hns⟩, htool, hip, rfl⟩ := Toolbox.of_invocation_error hfound hfault
  constructor
  · intro hmishap
    cases hmishap with
    | launch hrun _ =>
      rw [hfault] at hrun
      cases hrun
    | outside _ _ _ => rfl
  · rintro rfl
    exact .outside hns htool hip

/-- A monitor goes wrong in the launcher only. -/
theorem mishap_watches_iff (hrun : tools.invocation ns "ip" args = .ok run) :
    Mishap tools launcher ns (.watches args) e ↔
      ∃ fault, launcher.stream run = .error fault ∧ e = .process fault := by
  constructor
  · intro hmishap
    cases hmishap with
    | stream hrun' hfault =>
      obtain rfl := Except.ok.inj (hrun.symm.trans hrun')
      exact ⟨_, hfault, rfl⟩
  · rintro ⟨fault, hfault, rfl⟩
    exact .stream hrun hfault

end Mishaps

/-- A deed that does more than reading fails exactly with its mishaps, if its tool was found and the
namespace that it enters exists. -/
theorem Outcome.error_iff_mishap {env : Environment} {w w' : World} {d : Deed}
    {result : Except ShellError Output} (h : Outcome env w d result w') (hreads : d ≠ .reads)
    (hfound : ∀ tool args, d.use? = some (tool, args) → env.tools.has tool = true)
    (henters : ∀ ns, d = .enters ns → ∃ network, w.network.within ns = .ok network) (e : ShellError) :
    result = .error e ↔ Mishap env.tools env.launcher w.network.active? d e := by
  cases h with
  | read _ => exact absurd rfl hreads
  | @unavailable tool args fault hfault =>
    rw [mishap_unavailable_iff (hfound tool args rfl) hfault, Except.error.injEq, eq_comm]
  | @unlaunched tool args run fault hrun hfault =>
    rw [mishap_runs_iff (hfound tool args rfl) hrun]
    simp [hfault, eq_comm]
  | @ran tool args run code hrun hcode =>
    rw [mishap_runs_iff (hfound tool args rfl) hrun]
    simp [hcode]
  | absent hfault =>
    obtain ⟨network, hnetwork⟩ := henters _ rfl
    rw [hfault] at hnetwork
    cases hnetwork
  | @unwatchable args fault hfault =>
    exact absurd rfl (Toolbox.of_invocation_error (hfound "ip" args rfl) hfault).2.1
  | unstarted hrun hfault =>
    rw [mishap_watches_iff hrun]
    simp [hfault, eq_comm]
  | watching hrun hlines =>
    rw [mishap_watches_iff hrun]
    simp [hlines]
  | entered _ | stopped =>
    constructor
    · intro h
      cases h
    · intro h
      cases h

/-- The mishap of the command that shows the file of `ifstate`: the file cannot be read. -/
def Unreadable (config : Config) (disk : Disk) (path : List String) (e : ShellError) : Prop :=
  path = ifstateConfigPath ∧ ∃ os, disk.readText (ifstatePath config) = .error os ∧
    e = .command (.unreadable (ifstatePath config) os)

namespace Shell

section Lines

variable {s : Shell} {lookups : Lookups} {line : List Char} {w w' : World} {c : Command}
  {inv : Invocation} {chain : FilterChain} {state : NamespaceState}

/-- The namespace that a line switches to exists, for the command accepted it. -/
theorem IsBuiltin.exists_within (hs : s.IsBuiltin lookups) (hheld : w.network.Held state)
    (h : Reaches s line w c inv chain w') {ns : Option String}
    (hdeed : Deed.of s.config inv.path inv.args = .enters ns) :
    ∃ network, w.network.within ns = .ok network := by
  obtain ⟨host, named, hsource, -⟩ := hheld
  have hpath := Deed.path_of_enters hdeed
  have hmem := hs.mem_of_reaches h
  have hparsed := h.accepted.1.parsed
  rw [hpath] at hmem hdeed
  obtain rfl := eq_netns_of_mem hmem
  obtain rfl : inv.args.head? = ns := Deed.enters.inj hdeed
  obtain ⟨-, hnames⟩ := (accepts_netns_iff hsource).mp ⟨_, hparsed⟩
  exact ⟨_, Network.within_of_mem hsource fun name hname => hnames name (List.mem_of_mem_head? hname)⟩

/-- A line that reaches its command fails exactly with the mishaps of the command. -/
theorem IsBuiltin.error_iff_mishap (hs : s.IsBuiltin lookups) (hheld : w.network.Held state)
    (h : Reaches s line w c inv chain w') (e : ShellError) :
    ((s.dispatch line).run.run w).1 = .error e ↔
      Mishap s.tools s.launcher w.network.active? (Deed.of s.config inv.path inv.args) e ∨
        Unreadable s.config s.disk inv.path e := by
  have hfilter : ∀ result : Except ShellError Output,
      result.map chain.apply = .error e ↔ result = .error e := by
    intro result
    cases result with
    | ok output => exact ⟨fun h => (nomatch h), fun h => (nomatch h)⟩
    | error e' => exact ⟨fun h => Except.error.inj h ▸ rfl, fun h => h ▸ rfl⟩
  rw [h.run_dispatch_eq]
  refine (hfilter _).trans ?_
  by_cases hdeed : Deed.of (s.environment chain).config inv.path inv.args = .reads
  · have hnone : ¬ Mishap s.tools s.launcher w.network.active? (Deed.of s.config inv.path inv.args) e := by
      rw [show Deed.of s.config inv.path inv.args = .reads from hdeed]
      intro hmishap
      cases hmishap
    refine Iff.trans ?_ (or_iff_right hnone).symm
    rcases (offered_of_mem (hs.mem_of_reaches h)).answers hheld h.accepted.1.parsed hdeed inv.parsed with
      ⟨hpath, rfl⟩ | ⟨hpath, hanswers⟩
    · rw [run_ifstateConfig, show (s.environment chain).disk = s.disk from rfl,
        show (s.environment chain).config = s.config from rfl]
      cases hread : s.disk.readText (ifstatePath s.config) with
      | error os =>
        constructor
        · exact fun herror => ⟨hpath, os, hread, (Except.error.inj herror).symm⟩
        · rintro ⟨-, os', hread', rfl⟩
          rw [Except.error.inj (hread.symm.trans hread')]
      | ok text =>
        refine ⟨fun herror => (nomatch herror), ?_⟩
        rintro ⟨-, os, hread', -⟩
        rw [hread] at hread'
        cases hread'
    · obtain ⟨output, w'', hrun, -⟩ := hanswers (s.executing line inv chain w) network_executing
      have hok := congrArg Prod.fst hrun
      constructor
      · intro herror
        cases hok.symm.trans herror
      · exact fun hunreadable => absurd hunreadable.1 hpath
  · have hunreadable : ¬ Unreadable s.config s.disk inv.path e := by
      rintro ⟨hpath, -⟩
      rw [hpath] at hdeed
      exact hdeed (Deed.of_three _ _ _ _ _)
    have houtcome := hs.outcome_of_reaches h chain inv.parsed (s.executing line inv chain w)
    have hfound : ∀ tool args, (Deed.of s.config inv.path inv.args).use? = some (tool, args) →
        s.tools.has tool = true :=
      fun tool args huse => has_of_use (hs.mem_of_reaches h) ⟨inv.parsed, h.accepted.1.parsed⟩ huse
    refine Iff.trans ?_ (or_iff_left hunreadable).symm
    exact houtcome.error_iff_mishap hdeed hfound (fun ns => hs.exists_within hheld h) e

/-- The namespace that lines lead to exists, if the network is held in memory. -/
theorem IsBuiltin.exists_held (hs : s.IsBuiltin lookups) {host : NamespaceState}
    {named : SortedMap String NamespaceState} (hw : w.network = ⟨.memory host named, none⟩)
    (lines : List (List Char)) : ∃ state, (s.runLines w lines).network.Held state := by
  obtain ⟨last, hlast⟩ := exists_lastSwitch s w lines
  obtain ⟨hnet, hasks⟩ := hs.network_eq_of_lastSwitch hw hlast
  obtain ⟨state, hstate⟩ : ∃ state, Network.stateOf host named (last.bind Prod.snd) = .ok state := by
    cases htarget : last.bind Prod.snd with
    | none => exact ⟨host, rfl⟩
    | some name =>
      obtain ⟨⟨line, target⟩, rfl, rfl⟩ := Option.bind_eq_some_iff.mp htarget
      obtain ⟨state, hstate⟩ := SortedMap.exists_find?_iff.mpr (hasks line _ rfl).mem
      exact ⟨state, by simp only [Network.stateOf, hstate]⟩
  rw [hnet]
  exact ⟨state, host, named, rfl, hstate⟩

end Lines

theorem host_of_build {config : Config} {tools : Toolbox} {lookups : Lookups} {disk : Disk}
    {launcher : Launcher} {s : Shell} (h : build config tools lookups disk launcher = .ok s) :
    s.disk = disk ∧ s.launcher = launcher := by
  unfold build at h
  split at h
  · obtain rfl := Except.ok.inj h
    exact ⟨rfl, rfl⟩
  · cases h

/-- **A line that is judged valid succeeds, but for mishaps outside the shell.** A shell is built whatever
tools were found, and some lines are executed over a network held in memory. Take any further line that is
judged valid. Either it has no words and does nothing, or it reaches a command, and then it fails exactly
with the mishaps of this command: the launcher reports a failure of the program that is started, the
program is not `ip` and has to be started in a namespace without `ip`, or the file that
`show ifstate config` shows cannot be read. So no command finds an interface, an aspect, a namespace or an
argument missing. -/
theorem valid_line_succeeds (config : Config) (tools : Toolbox) (lookups : Lookups) (disk : Disk)
    (launcher : Launcher) :
    ∃ s, build config tools lookups disk launcher = .ok s ∧
      ∀ (host : NamespaceState) (named : SortedMap String NamespaceState) (fresh w : World)
        (lines : List (List Char)),
        fresh.network = ⟨.memory host named, none⟩ → s.runLines fresh lines = w →
        ∀ line r, (s.validate w.network line).value = .valid → (s.dispatch line).run.run w = r →
          ((Line.scan line).tokens = [] ∧ r = (.ok .none, w) ∨
            ∃ c inv chain w', Reaches s line w c inv chain w' ∧
              ∀ e, r.1 = .error e ↔
                Mishap tools launcher w.network.active? (Deed.of config inv.path inv.args) e ∨
                Unreadable config disk inv.path e) ∧
          ∀ e, r.1 = .error e → (∀ name, e ≠ .command (.noInterface name)) ∧
            (∀ word, e ≠ .command (.invalidSubcommand word)) ∧ (∀ fault, e ≠ .query fault) ∧
            ∀ column fault, e ≠ .argument column fault := by
  obtain ⟨s, hbuild, hs, rfl, rfl⟩ := exists_build config tools lookups disk launcher
  obtain ⟨rfl, rfl⟩ := host_of_build hbuild
  refine ⟨s, hbuild, ?_⟩
  rintro host named fresh w lines hfresh rfl line r hvalid rfl
  obtain ⟨state, hheld⟩ := hs.exists_held hfresh lines
  rcases validate_valid_iff.mp hvalid with hnil | ⟨c, inv, chain, w', hreach⟩
  · have hrun := run_dispatch_nil (s := s) (w := s.runLines fresh lines)
      ((Line.scan_tokens_nil_iff line).mp hnil)
    refine ⟨Or.inl ⟨hnil, hrun⟩, fun e herror => ?_⟩
    rw [hrun] at herror
    cases herror
  · have hmishap := hs.error_iff_mishap hheld hreach
    refine ⟨Or.inr ⟨c, inv, chain, w', hreach, hmishap⟩, fun e herror => ?_⟩
    rcases (hmishap e).mp herror with hmishap | ⟨-, os, -, rfl⟩
    · rcases hmishap.error_cases with ⟨fault, rfl⟩ | rfl
      · simp
      · simp
    · simp

/-- Namespaces are listed behind a switch to one of them. -/
theorem listing_behind_switch :
    ∃ s, bare = .ok s ∧ ∃ w,
      s.runLines (.start ⟨.memory .empty [("blue", .empty)], none⟩) ["netns blue".toList] = w ∧
      (s.validate w.network "show netns".toList).value = .valid ∧
      ∀ e, ((s.dispatch "show netns".toList).run.run w).1 ≠ .error e := by
  obtain ⟨s, hbare, hsucceeds⟩ : ∃ s, bare = .ok s ∧ _ := valid_line_succeeds _ _ _ _ _
  have hs := isBuiltin_of_bare hbare
  obtain ⟨w, hw⟩ : ∃ w, s.runLines (.start ⟨.memory .empty [("blue", .empty)], none⟩) ["netns blue".toList] = w :=
    ⟨_, rfl⟩
  have hmem : (["show", "netns"], Show.namespaces) ∈ builtinCommands s.tools .builtin := by simp [builtinCommands]
  have htypes := hs.types_ofWords hmem []
  rw [show Line.ofWords (["show", "netns"] ++ []) = "show netns".toList by decide] at htypes
  have hvalid : (s.validate w.network "show netns".toList).value = .valid :=
    validate_valid_iff.mpr (Or.inr ⟨_, _, _, _, htypes.reaches rfl⟩)
  refine ⟨s, hbare, w, hw, hvalid, fun e he => ?_⟩
  rcases (hsucceeds _ _ _ w _ rfl hw _ _ hvalid rfl).1 with ⟨hnil, -⟩ | ⟨c, inv, chain, w', hreach, hmishap⟩
  · exact absurd hnil htypes.ne_nil
  · obtain ⟨rfl, rfl, rfl, -⟩ := hreach.unique (htypes.reaches rfl)
    rcases (hmishap e).mp he with hmishap | ⟨hpath, -⟩
    · cases hmishap
    · exact absurd hpath (by decide)

end Shell

end RouterShell
