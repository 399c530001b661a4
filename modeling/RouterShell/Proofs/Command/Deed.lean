import RouterShell.Proofs.Command.Builtin
import RouterShell.Proofs.Command.Run

/-!
# What commands do

The commands of the shell are many, but executing one of them comes down to one of five deeds: it only
reads, it runs a tool in the foreground, it switches the namespace, it stops the monitor, or it starts a
new one. This module says which deed it is, and what each deed can do to a world.

## The model

`Deed.of` gives the deed of a command from its path, its arguments and the settings; the namespace and
what happened before have no part in it. `Performs` ties a deed to the action that is executed.
`Outcome` lists everything that can come of a deed in a world, with what it answers or fails with and
the world that it leaves.

## What is proved

`performs_of_mem`: every command performs its deed, if it is executed on arguments that it accepts.
`Performs.outcome`: performing a deed has one of the outcomes. `Performs.alike`: what a deed answers, and
which programs it starts, depend on nothing but the network.
-/

namespace RouterShell

/-- Whether an error turns a line away before its command is executed. -/
def ShellError.isRejection : ShellError → Bool
  | .unknownCommand _ => true
  | .incompleteCommand => true
  | .argument _ _ => true
  | .filter _ => true
  | .badSyntax _ => true
  | _ => false

/-! ### Reading -/

section Reads

variable {α β : Type}

/-- An action only reads: it answers from the network, and nothing remains but the questions that it
asked. It does not fail as a line does that is turned away. -/
def Reads (x : Action α) : Prop :=
  ∃ answer : Network → Logged (Except ShellError α),
    (∀ net e, (answer net).value = .error e → e.isRejection = false) ∧
    ∀ w, x.run.run w = ((answer w.network).value, w.asked (answer w.network).runs)

theorem Reads.pure (a : α) : Reads (pure a : Action α) := by
  refine ⟨fun _ => ⟨.ok a, []⟩, fun _ _ h => ?_, fun w => ?_⟩
  · cases h
  · rw [World.asked_nil]
    rfl

theorem Reads.throw {e : ShellError} (h : e.isRejection = false) : Reads (throw e : Action α) := by
  refine ⟨fun _ => ⟨.error e, []⟩, fun _ e' he => ?_, fun w => ?_⟩
  · rw [Except.error.injEq] at he
    rwa [← he]
  · rw [World.asked_nil]
    rfl

theorem Reads.query (question : Network → Logged (Except QueryFault α)) :
    Reads (Action.query question) := by
  refine ⟨fun net => ⟨(question net).value.mapError .query, (question net).runs⟩, fun net e h => ?_,
    fun w => Action.run_query question w⟩
  dsimp only at h
  cases hv : (question net).value with
  | ok a =>
    rw [hv] at h
    cases h
  | error fault =>
    rw [hv] at h
    cases h
    rfl

/-- Ask a second question, about the answer to the first one. -/
def askTwice (first : Network → Logged (Except ShellError α))
    (second : α → Network → Logged (Except ShellError β)) (net : Network) :
    Logged (Except ShellError β) := do
  match ← first net with
  | .ok a => second a net
  | .error e => return .error e

theorem askTwice_ok {first : Network → Logged (Except ShellError α)} {net : Network} {a : α}
    (h : (first net).value = .ok a) (second : α → Network → Logged (Except ShellError β)) :
    askTwice first second net =
      ⟨(second a net).value, (first net).runs ++ (second a net).runs⟩ := by
  show Logged.mk _ _ = Logged.mk _ _
  rw [h]

theorem askTwice_error {first : Network → Logged (Except ShellError α)} {net : Network}
    {e : ShellError} (h : (first net).value = .error e)
    (second : α → Network → Logged (Except ShellError β)) :
    askTwice first second net = ⟨.error e, (first net).runs⟩ := by
  show Logged.mk _ _ = Logged.mk _ _
  rw [h]
  exact congrArg (Logged.mk _) (List.append_nil _)

/-- Reading twice, the second time for what the first answered, is reading. -/
theorem Reads.bind {x : Action α} {f : α → Action β} (hx : Reads x) (hf : ∀ a, Reads (f a)) :
    Reads (x >>= f) := by
  obtain ⟨first, hfirst, hrun⟩ := hx
  choose second hsecond hrun' using hf
  refine ⟨askTwice first second, fun net e h => ?_, fun w => ?_⟩
  · cases hv : (first net).value with
    | ok a =>
      rw [askTwice_ok hv] at h
      exact hsecond a net e h
    | error e' =>
      rw [askTwice_error hv, Except.error.injEq] at h
      exact h ▸ hfirst net e' hv
  · have hw := hrun w
    cases hv : (first w.network).value with
    | ok a =>
      rw [hv] at hw
      rw [askTwice_ok hv, Action.run_bind_ok hw, hrun' a, World.network_asked, World.asked_append]
    | error e =>
      rw [hv] at hw
      rw [askTwice_error hv, Action.run_bind_error hw]

end Reads

/-! ### Deeds -/

/-- What executing a command comes down to. -/
inductive Deed where
  /-- It only reads. -/
  | reads
  /-- It runs a tool in the foreground. -/
  | runs (tool : String) (args : List String)
  /-- It switches to a namespace. -/
  | enters (ns : Option String)
  /-- It stops the monitor. -/
  | stops
  /-- It starts a new monitor: `ip` with some arguments. -/
  | watches (args : List String)

namespace Deed

/-- The deed of the monitor. -/
def ofMonitor : List String → Deed
  | [] => .stops
  | object :: rest =>
    if object = "none" then .stops else .watches (Session.monitorArgs object rest.head?)

/-- The deed of showing interfaces: an aspect of one of them is reported by `ethtool`. -/
def ofInterface : List String → Deed
  | name :: aspect :: _ =>
    match Show.aspectOption? aspect with
    | some option => .runs "ethtool" [option, name]
    | none => .reads
  | _ => .reads

/-- The deed of a command of one word: a tool is run with the arguments that the settings put in front of
the typed ones. -/
def ofTool (config : Config) (word : String) (args : List String) : Deed :=
  match ToolCommand.all.find? fun t => t.tool = word with
  | some t => .runs t.tool (t.leading config ++ args)
  | none => .reads

/-- The deed of the command with a path, on some arguments. -/
def of (config : Config) (path args : List String) : Deed :=
  match path with
  | ["netns"] => .enters args.head?
  | ["monitor"] => ofMonitor args
  | ["enable", "interface"] => .runs "ip" (["link", "set", "dev"] ++ args ++ ["up"])
  | ["disable", "interface"] => .runs "ip" (["link", "set", "dev"] ++ args ++ ["down"])
  | ["reset", "interface"] => .runs "ethtool" ("--reset" :: args)
  | ["renegotiate", "interface"] => .runs "ethtool" ("--negotiate" :: args)
  | ["identify", "interface"] => .runs "ethtool" ("--identify" :: args)
  | ["show", "interface"] => ofInterface args
  | [word] => ofTool config word args
  | _ => .reads

/-- Commands with a path of three words only read. -/
theorem of_three (config : Config) (a b c : String) (args : List String) :
    of config [a, b, c] args = .reads := by
  simp [of]

/-- A deed is to switch the namespace, the monitor's, to run a tool, or else to read. -/
theorem of_cases (config : Config) (path args : List String) :
    (path = ["netns"] ∧ of config path args = .enters args.head?) ∨
    (path = ["monitor"] ∧ of config path args = ofMonitor args) ∨
    of config path args = .reads ∨ ∃ tool toolArgs, of config path args = .runs tool toolArgs := by
  have hinterface : ofInterface args = .reads ∨
      ∃ tool toolArgs, ofInterface args = .runs tool toolArgs := by
    unfold ofInterface
    split
    · split
      · exact Or.inr ⟨_, _, rfl⟩
      · exact Or.inl rfl
    · exact Or.inl rfl
  have htool : ∀ word, ofTool config word args = .reads ∨
      ∃ tool toolArgs, ofTool config word args = .runs tool toolArgs := by
    intro word
    unfold ofTool
    split
    · exact Or.inr ⟨_, _, rfl⟩
    · exact Or.inl rfl
  unfold of
  split
  · exact Or.inl ⟨rfl, rfl⟩
  · exact Or.inr (Or.inl ⟨rfl, rfl⟩)
  · exact Or.inr (Or.inr (Or.inr ⟨_, _, rfl⟩))
  · exact Or.inr (Or.inr (Or.inr ⟨_, _, rfl⟩))
  · exact Or.inr (Or.inr (Or.inr ⟨_, _, rfl⟩))
  · exact Or.inr (Or.inr (Or.inr ⟨_, _, rfl⟩))
  · exact Or.inr (Or.inr (Or.inr ⟨_, _, rfl⟩))
  · exact Or.inr (Or.inr hinterface)
  · exact Or.inr (Or.inr (htool _))
  · exact Or.inr (Or.inr (Or.inl rfl))

/-- Only one command switches the namespace. -/
theorem path_of_enters {config : Config} {path args : List String} {ns : Option String}
    (h : of config path args = .enters ns) : path = ["netns"] := by
  rcases of_cases config path args with ⟨hpath, -⟩ | ⟨-, hd⟩ | hd | ⟨tool, toolArgs, hd⟩
  · exact hpath
  · rw [hd] at h
    unfold ofMonitor at h
    split at h
    · cases h
    · split at h
      · cases h
      · cases h
  · rw [hd] at h
    cases h
  · rw [hd] at h
    cases h

/-- The command of a tool runs it. -/
theorem of_tool {t : ToolCommand} (ht : t ∈ ToolCommand.all) (config : Config) (args : List String) :
    of config [t.tool] args = .runs t.tool (t.leading config ++ args) := by
  simp only [ToolCommand.all, List.mem_cons, List.not_mem_nil, or_false] at ht
  rcases ht with rfl | rfl | rfl | rfl | rfl | rfl | rfl | rfl | rfl <;> rfl

/-- The tool that a deed starts, and its arguments. -/
def use? : Deed → Option (String × List String)
  | .runs tool args => some (tool, args)
  | .watches args => some ("ip", args)
  | _ => none

end Deed

/-- An action performs a deed. -/
inductive Performs (env : Environment) : Deed → Action Output → Prop where
  /-- It only reads. -/
  | reads {x : Action Output} : Reads x → Performs env .reads x
  /-- It runs a tool. -/
  | runs (tool : String) (args : List String) :
      Performs env (.runs tool args) (env.runTool tool args)
  /-- It enters a namespace. -/
  | enters (ns : Option String) :
      Performs env (.enters ns) (do Action.enter ns; return .none)
  /-- It stops the monitor. -/
  | stops : Performs env .stops (do Action.stopMonitor; return .none)
  /-- It stops the monitor, and starts another one. -/
  | watches (args : List String) :
      Performs env (.watches args) (do Action.stopMonitor; env.startMonitor "ip" args; return .none)

/-! ### The deeds of the commands -/

section Commands

variable {env : Environment} {inv : Invocation}

theorem reads_interfaceTable : Reads Show.interfaceTable :=
  (Reads.query _).bind fun _ => .pure _

theorem reads_interfaceDetails (name : String) : Reads (Show.interfaceDetails name) := by
  refine (Reads.query _).bind fun links => ?_
  cases links.find? fun l => l.name == name with
  | none => exact .throw rfl
  | some l => exact (Reads.query _).bind fun _ => .pure _

theorem performs_interface (ethtool : Bool) :
    Performs env (Deed.ofInterface inv.args) ((Show.interface ethtool).execute env inv) := by
  obtain ⟨path, args, parsed⟩ := inv
  rcases args with _ | ⟨name, _ | ⟨word, rest⟩⟩
  · exact .reads reads_interfaceTable
  · exact .reads (reads_interfaceDetails name)
  · simp only [Deed.ofInterface, Show.interface]
    cases Show.aspectOption? word with
    | some option => exact .runs "ethtool" [option, name]
    | none => exact .reads (.throw rfl)

theorem performs_ifstateConfig :
    Performs env .reads (Show.ifstateConfig.execute env inv) := by
  refine .reads ?_
  simp only [Show.ifstateConfig, Command.bare]
  split
  · exact .throw rfl
  · exact .pure _

theorem performs_monitor (hargs : inv.args ≠ []) :
    Performs env (Deed.ofMonitor inv.args) (Session.monitor.execute env inv) := by
  obtain ⟨object, rest, hinv⟩ := List.exists_cons_of_ne_nil hargs
  simp only [Session.monitor, hinv, Deed.ofMonitor]
  split
  · exact .stops
  · exact .watches _

/-- Every command performs its deed; the monitor does so on arguments that it accepts. -/
theorem performs_of_mem {tools : Toolbox} {lookups : Lookups} {path : List String} {c : Command}
    (h : (path, c) ∈ builtinCommands tools lookups) (hargs : path = ["monitor"] → inv.args ≠ []) :
    Performs env (Deed.of env.config path inv.args) (c.execute env inv) := by
  cases offered_of_mem h with
  | interface => exact performs_interface _
  | address _ _ | neighbour _ _ | rule _ _ | route _ _ =>
    rw [Deed.of_three]
    exact .reads ((Reads.query _).bind fun _ => .pure _)
  | fdb => exact .reads ((Reads.query _).bind fun _ => .pure _)
  | namespaces => exact .reads ((Reads.query _).bind fun _ => .pure _)
  | ifstateConfig _ => exact performs_ifstateConfig
  | enable _ => exact .runs "ip" _
  | disable _ => exact .runs "ip" _
  | reset _ => exact .runs "ethtool" _
  | renegotiate _ => exact .runs "ethtool" _
  | identify _ => exact .runs "ethtool" _
  | netns => exact .enters inv.args.head?
  | monitor _ => exact performs_monitor (hargs rfl)
  | help => exact .reads (.pure _)
  | exit => exact .reads (.pure _)
  | tool ht _ =>
    rw [Deed.of_tool ht]
    exact .runs _ _

end Commands

/-! ### What comes of a deed -/

section Runs

variable (env : Environment) (w : World)

theorem run_enters (ns : Option String) :
    (do Action.enter ns; return .none : Action Output).run.run w =
      match w.network.within ns with
      | .ok network => (.ok .none, { w with network })
      | .error fault => (.error (.query fault), w) := by
  have henter := Action.run_enter ns w
  cases hns : w.network.within ns with
  | ok network =>
    rw [hns] at henter
    rw [Action.run_bind_ok henter]
    rfl
  | error fault =>
    rw [hns] at henter
    rw [Action.run_bind_error henter]

theorem run_stops :
    (do Action.stopMonitor; return .none : Action Output).run.run w = (.ok .none, w.quiet) := by
  rw [Action.run_bind_ok (Action.run_stopMonitor w)]
  rfl

/-- The old monitor is stopped first, whatever becomes of the new one. -/
theorem run_watches (args : List String) :
    (do Action.stopMonitor; env.startMonitor "ip" args; return .none : Action Output).run.run w =
      match env.tools.invocation w.network.active? "ip" args with
      | .error fault => (.error (.command fault), w.quiet)
      | .ok run =>
        match env.launcher.stream run with
        | .error fault => (.error (.process fault), w.quiet.noted [.streamed run])
        | .ok lines =>
          (.ok .none,
            (w.quiet.noted [.streamed run]).watching (lines.filter env.filters.passesLine)) := by
  rw [Action.run_bind_ok (Action.run_stopMonitor w)]
  have hstart := env.run_startMonitor "ip" args w.quiet
  rw [World.network_quiet] at hstart
  cases hrun : env.tools.invocation w.network.active? "ip" args with
  | error fault =>
    rw [hrun] at hstart
    rw [Action.run_bind_error hstart]
  | ok run =>
    rw [hrun] at hstart
    dsimp only at hstart ⊢
    cases hlines : env.launcher.stream run with
    | error fault =>
      rw [hlines] at hstart
      rw [Action.run_bind_error hstart]
    | ok lines =>
      rw [hlines] at hstart
      rw [Action.run_bind_ok hstart]
      rfl

end Runs

/-- What can come of a deed in a world: what it answers or fails with, and the world that it leaves. -/
inductive Outcome (env : Environment) (w : World) :
    Deed → Except ShellError Output → World → Prop where
  /-- What was asked for is answered, or cannot be. -/
  | read {result : Except ShellError Output} {runs : List Run} :
      (∀ e, result = .error e → e.isRejection = false) → Outcome env w .reads result (w.asked runs)
  /-- There is no program that runs the tool in the active namespace. -/
  | unavailable {tool : String} {args : List String} {fault : CommandFault} :
      env.tools.invocation w.network.active? tool args = .error fault →
      Outcome env w (.runs tool args) (.error (.command fault)) w
  /-- The tool cannot be run. -/
  | unlaunched {tool : String} {args : List String} {run : Run} {fault : LaunchFault} :
      env.tools.invocation w.network.active? tool args = .ok run →
      env.launcher.run run = .error fault →
      Outcome env w (.runs tool args) (.error (.process fault)) (w.noted [.launched run])
  /-- The tool was run. -/
  | ran {tool : String} {args : List String} {run : Run} {code : Int} :
      env.tools.invocation w.network.active? tool args = .ok run →
      env.launcher.run run = .ok code →
      Outcome env w (.runs tool args) (.ok .none) (w.noted [.launched run])
  /-- There is no such namespace. -/
  | absent {ns : Option String} {fault : QueryFault} : w.network.within ns = .error fault →
      Outcome env w (.enters ns) (.error (.query fault)) w
  /-- The namespace was entered. -/
  | entered {ns : Option String} {network : Network} : w.network.within ns = .ok network →
      Outcome env w (.enters ns) (.ok .none) { w with network }
  /-- There is no monitor any more. -/
  | stopped : Outcome env w .stops (.ok .none) w.quiet
  /-- There is no program that runs `ip` in the active namespace. -/
  | unwatchable {args : List String} {fault : CommandFault} :
      env.tools.invocation w.network.active? "ip" args = .error fault →
      Outcome env w (.watches args) (.error (.command fault)) w.quiet
  /-- The monitor cannot be started. -/
  | unstarted {args : List String} {run : Run} {fault : LaunchFault} :
      env.tools.invocation w.network.active? "ip" args = .ok run →
      env.launcher.stream run = .error fault →
      Outcome env w (.watches args) (.error (.process fault)) (w.quiet.noted [.streamed run])
  /-- The monitor was started. -/
  | watching {args : List String} {run : Run} {lines : List String} :
      env.tools.invocation w.network.active? "ip" args = .ok run →
      env.launcher.stream run = .ok lines →
      Outcome env w (.watches args) (.ok .none)
        ((w.quiet.noted [.streamed run]).watching (lines.filter env.filters.passesLine))

/-- A command does not fail as a line does that is turned away, and if it fails it leaves the network as
it was. -/
theorem Outcome.error {env : Environment} {w w' : World} {d : Deed} {e : ShellError}
    (h : Outcome env w d (.error e) w') : e.isRejection = false ∧ w'.network = w.network := by
  cases h with
  | read hlate => exact ⟨hlate e rfl, rfl⟩
  | unavailable _ => exact ⟨rfl, rfl⟩
  | unlaunched _ _ => exact ⟨rfl, rfl⟩
  | absent _ => exact ⟨rfl, rfl⟩
  | unwatchable _ => exact ⟨rfl, World.network_quiet w⟩
  | unstarted _ _ => exact ⟨rfl, World.network_quiet w⟩

/-- A deed that does not switch the namespace leaves the network as it was. -/
theorem Outcome.network_eq {env : Environment} {w w' : World} {d : Deed}
    {result : Except ShellError Output} (h : Outcome env w d result w') (hd : ∀ ns, d ≠ .enters ns) :
    w'.network = w.network := by
  cases h with
  | entered _ => exact absurd rfl (hd _)
  | absent _ => rfl
  | read _ => rfl
  | unavailable _ => rfl
  | unlaunched _ _ => rfl
  | ran _ _ => rfl
  | stopped => exact World.network_quiet w
  | unwatchable _ => exact World.network_quiet w
  | unstarted _ _ => exact World.network_quiet w
  | watching _ _ => exact World.network_quiet w

/-- Performing a deed has one of the outcomes. -/
theorem Performs.outcome {env : Environment} {d : Deed} {x : Action Output} (h : Performs env d x)
    (w : World) : Outcome env w d (x.run.run w).1 (x.run.run w).2 := by
  cases h with
  | reads hx =>
    obtain ⟨answer, hlate, hrun⟩ := hx
    rw [hrun w]
    exact .read (hlate w.network)
  | runs tool args =>
    rw [env.run_runTool]
    cases hrun : env.tools.invocation w.network.active? tool args with
    | error fault => exact .unavailable hrun
    | ok run =>
      dsimp only
      cases hcode : env.launcher.run run with
      | error fault => exact .unlaunched hrun hcode
      | ok code => exact .ran hrun hcode
  | enters ns =>
    rw [run_enters]
    cases hns : w.network.within ns with
    | ok network => exact .entered hns
    | error fault => exact .absent hns
  | stops =>
    rw [run_stops]
    exact .stopped
  | watches args =>
    rw [run_watches]
    cases hrun : env.tools.invocation w.network.active? "ip" args with
    | error fault => exact .unwatchable hrun
    | ok run =>
      dsimp only
      cases hlines : env.launcher.stream run with
      | error fault => exact .unstarted hrun hlines
      | ok lines => exact .watching hrun hlines

/-- Two runs that began in the worlds `w` and `v` are alike: they answer the same, hand over the same
programs to the launcher, and end in the same network. -/
structure RunsAlike {α : Type} (w v : World) (r r' : Except ShellError α × World) : Prop where
  /-- They answer or fail the same. -/
  result : r.1 = r'.1
  /-- They end in the same network. -/
  network : r.2.network = r'.2.network
  /-- They hand over the same programs. -/
  launches : ∃ runs, r.2.launches = w.launches ++ runs ∧ r'.2.launches = v.launches ++ runs

/-- What comes of a deed depends on nothing but the network. -/
theorem Performs.alike {env : Environment} {d : Deed} {x : Action Output} (h : Performs env d x)
    {w v : World} (hnet : w.network = v.network) : RunsAlike w v (x.run.run w) (x.run.run v) := by
  cases h with
  | reads hx =>
    obtain ⟨answer, -, hrun⟩ := hx
    rw [hrun w, hrun v, hnet]
    exact ⟨rfl, hnet, [], by simp, by simp⟩
  | runs tool args =>
    rw [env.run_runTool, env.run_runTool, hnet]
    cases env.tools.invocation v.network.active? tool args with
    | error fault => exact ⟨rfl, hnet, [], by simp, by simp⟩
    | ok run =>
      dsimp only
      cases env.launcher.run run with
      | error fault => exact ⟨rfl, hnet, [run], by simp [Event.launch?], by simp [Event.launch?]⟩
      | ok code => exact ⟨rfl, hnet, [run], by simp [Event.launch?], by simp [Event.launch?]⟩
  | enters ns =>
    rw [run_enters, run_enters, hnet]
    cases v.network.within ns with
    | ok network => exact ⟨rfl, rfl, [], by simp [World.launches], by simp [World.launches]⟩
    | error fault => exact ⟨rfl, hnet, [], by simp, by simp⟩
  | stops =>
    rw [run_stops, run_stops]
    exact ⟨rfl, by simp [hnet], [], by simp, by simp⟩
  | watches args =>
    rw [run_watches, run_watches, hnet]
    cases env.tools.invocation v.network.active? "ip" args with
    | error fault => exact ⟨rfl, by simp [hnet], [], by simp, by simp⟩
    | ok run =>
      dsimp only
      cases env.launcher.stream run with
      | error fault =>
        exact ⟨rfl, by simp [hnet], [run], by simp [Event.launch?], by simp [Event.launch?]⟩
      | ok lines =>
        exact ⟨rfl, by simp [hnet], [run], by simp [Event.launch?], by simp [Event.launch?]⟩

end RouterShell
