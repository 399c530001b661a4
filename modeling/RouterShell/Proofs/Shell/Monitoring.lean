import RouterShell.Proofs.Command.Streams
import RouterShell.Proofs.Shell.Written

/-!
# No monitor is left behind

A shell is asked to execute lines and to shut down, in any order and as often as one likes. This module
proves that in the course of this no monitor is ever lost: the one that runs is the one in the slot.

## The model

A `Request` is a line or a shutdown. Programs that start at one time may fail at another, and the
network may change between two lines, so every line comes with the `Surroundings` it is executed in.
`after` is the world after some requests to a shell that has just started.

What holds between two requests is `Tidy`: the trace and the slot agree, and there is nothing in the slot
of a shell without a monitor command. The second part is what shutting down relies on, for it only asks
commands that there are.

## What is proved

Each request leaves the world tidy (`IsBuiltin.tidy_serve`), and so do all (`IsBuiltin.tidy_after`).
`monitor_never_leaks` is what follows for the monitors of a run.
-/

namespace RouterShell

/-- What starts programs, and what the network is read from. -/
structure Surroundings where
  /-- What starts programs. -/
  launcher : Launcher
  /-- What the network is read from. -/
  source : Source

/-- What a shell is asked to do. -/
inductive Request where
  /-- Execute a line in some surroundings. -/
  | line (around : Surroundings) (text : List Char)
  /-- Make all commands give up what they hold. -/
  | shutdown

/-- A world in some surroundings. -/
def World.amid (w : World) (around : Surroundings) : World :=
  { w with network := ⟨around.source, w.network.active?⟩ }

theorem World.Unwatched.amid (w : World) (around : Surroundings) : w.Unwatched (w.amid around) :=
  ⟨rfl, [], (List.append_nil _).symm, by simp⟩

namespace Shell

/-- A shell in some surroundings. -/
def amid (s : Shell) (around : Surroundings) : Shell := { s with launcher := around.launcher }

/-- The world after a request. -/
def serve (s : Shell) (w : World) : Request → World
  | .line around text => (((s.amid around).dispatch text).run.run (w.amid around)).2
  | .shutdown => (s.shutdown.run.run w).2

/-- The world after some requests to a shell that has just started. -/
def after (s : Shell) (net : Network) (requests : List Request) : World :=
  requests.foldl s.serve (.start net)

/-! ### One line -/

section Lines

variable {s : Shell} {lookups : Lookups} {w w' : World} {line : List Char}
  {answer : Except ShellError Output} {c : Command} {inv : Invocation} {chain : FilterChain}
  {reached : World}

theorem unwatched_executing : w.Unwatched (s.executing line inv chain w) :=
  (World.Unwatched.asked w _).trans (.noted _ (by simp [Event.isWatch]))

/-- After a line, what the trace says of monitors is what is in the slot. -/
theorem LineOutcome.watched (h : LineOutcome s lookups w line answer w') (hw : w.Watched) :
    w'.Watched := by
  cases h with
  | blank _ => exact hw
  | rejected _ => exact hw.unwatched (.asked w _)
  | performed _ _ houtcome _ => exact houtcome.watched (hw.unwatched unwatched_executing)

/-- A line that does not get as far as the monitor leaves it alone. -/
theorem LineOutcome.unwatched (h : LineOutcome s lookups w line answer w')
    (hpath : ∀ c inv chain reached, Reaches s line w c inv chain reached → inv.path ≠ ["monitor"]) :
    w.Unwatched w' := by
  cases h with
  | blank _ => exact .refl w
  | rejected _ => exact .asked w _
  | @performed c inv _ _ _ _ _ hreach _ houtcome _ =>
    refine unwatched_executing.trans (houtcome.unwatched ?_)
    cases hd : (Deed.of s.config inv.path inv.args).isWatch with
    | false => rfl
    | true => exact absurd (Deed.path_of_isWatch hd) (hpath _ _ _ _ hreach)

/-- No monitor runs after a line that asks for none, or that gets as far as the monitor and fails. -/
theorem LineOutcome.monitor_eq_none (h : LineOutcome s lookups w line answer w')
    (hreach : Reaches s line w c inv chain reached) (hpath : inv.path = ["monitor"])
    (hnone : inv.args.head? = some "none" ∨ ∃ e, answer = .error e) : w'.monitor = none := by
  cases h with
  | blank hnil => exact absurd hnil hreach.ne_nil
  | rejected hfault => exact absurd hfault hreach.not_agree
  | @performed _ _ _ _ result _ _ hreach' _ houtcome hanswer =>
    obtain ⟨rfl, rfl, rfl, rfl⟩ := hreach.unique hreach'
    rw [hpath] at houtcome
    refine houtcome.monitor_eq_none (Deed.isWatch_ofMonitor inv.args) ?_
    rcases hnone with hnone | ⟨e, he⟩
    · exact Or.inl (Deed.ofMonitor_none hnone)
    · right
      cases result with
      | ok output =>
        rw [hanswer] at he
        cases he
      | error e' => exact ⟨e', rfl⟩

/-- Without `ip` no line gets as far as the monitor. -/
theorem IsBuiltin.path_ne_monitor (hs : s.IsBuiltin lookups) (hip : s.tools.has "ip" = false)
    (hreach : Reaches s line w c inv chain reached) : inv.path ≠ ["monitor"] := by
  intro hpath
  have hmem := hs.mem_of_reaches hreach
  rw [hpath] at hmem
  rw [has_ip_of_monitor hmem] at hip
  cases hip

end Lines

/-! ### Shutting down -/

/-- A command holds nothing but a monitor. -/
theorem shutdown_of_mem {tools : Toolbox} {lookups : Lookups} {path : List String} {c : Command}
    (h : (path, c) ∈ builtinCommands tools lookups) :
    c.shutdown = pure () ∨ c.shutdown = Action.stopMonitor := by
  cases offered_of_mem h with
  | monitor _ => exact Or.inr rfl
  | _ => exact Or.inl rfl

/-- Commands give up what they hold one after the other. None of them starts a monitor, and one that
holds the monitor stops it. -/
theorem run_release {entries : List (List String × Command)}
    (h : ∀ e ∈ entries, e.2.shutdown = pure () ∨ e.2.shutdown = Action.stopMonitor) (w : World) :
    ∃ w', (entries.forM fun (path, c) => do
        Action.note [.released path]
        c.shutdown : Action Unit).run.run w = (.ok (), w') ∧
      (w.Watched → w'.Watched) ∧
      (w.monitor = none ∨ (∃ e ∈ entries, e.2.shutdown = Action.stopMonitor) → w'.monitor = none) := by
  induction entries generalizing w with
  | nil =>
    refine ⟨w, rfl, id, ?_⟩
    rintro (hnone | ⟨e, he, -⟩)
    · exact hnone
    · cases he
  | cons e entries ih =>
    obtain ⟨path, c⟩ := e
    have hnoted : w.Unwatched (w.noted [.released path]) := .noted w (by simp [Event.isWatch])
    have hrest : ∀ e ∈ entries, e.2.shutdown = pure () ∨ e.2.shutdown = Action.stopMonitor :=
      fun e he => h e (List.mem_cons_of_mem _ he)
    by_cases hc : c.shutdown = Action.stopMonitor
    · obtain ⟨w', hrun, hwatched, hnone⟩ := ih hrest (w.noted [.released path]).quiet
      have hfirst : (do Action.note [.released path]; c.shutdown : Action Unit).run.run w =
          (.ok (), (w.noted [.released path]).quiet) := by
        rw [hc, Action.run_bind_ok (Action.run_note _ w)]
        exact Action.run_stopMonitor _
      refine ⟨w', ?_, fun hw => hwatched (hw.unwatched hnoted).quiet, fun _ => hnone (Or.inl ?_)⟩
      · exact (Action.run_bind_ok hfirst).trans hrun
      · exact World.monitor_quiet _
    · obtain ⟨w', hrun, hwatched, hnone⟩ := ih hrest (w.noted [.released path])
      have hfirst : (do Action.note [.released path]; c.shutdown : Action Unit).run.run w =
          (.ok (), w.noted [.released path]) := by
        rw [(h (path, c) List.mem_cons_self).resolve_right hc, Action.run_bind_ok (Action.run_note _ w)]
        rfl
      refine ⟨w', ?_, fun hw => hwatched (hw.unwatched hnoted), fun hor => hnone ?_⟩
      · exact (Action.run_bind_ok hfirst).trans hrun
      · rcases hor with hw | ⟨e, he, hstop⟩
        · exact Or.inl hw
        · rcases List.mem_cons.mp he with rfl | he
          · exact absurd hstop hc
          · exact Or.inr ⟨e, he, hstop⟩

/-! ### Runs -/

/-- The trace of a world and its slot agree, and the slot of a shell without a monitor command is
empty. -/
structure Tidy (s : Shell) (w : World) : Prop where
  /-- What the trace says of monitors is what is in the slot. -/
  watched : w.Watched
  /-- There is a monitor only if there is its tool. -/
  tool : w.monitor = none ∨ s.tools.has "ip" = true

section Runs

variable {s : Shell} {lookups : Lookups} {w : World}

theorem Tidy.monitor_eq_none (hw : s.Tidy w) (hip : s.tools.has "ip" = false) : w.monitor = none := by
  have htool := hw.tool
  rw [hip] at htool
  exact htool.resolve_right Bool.false_ne_true

theorem IsBuiltin.amid (hs : s.IsBuiltin lookups) (around : Surroundings) :
    (s.amid around).IsBuiltin lookups := hs

/-- A line in some surroundings has one of the outcomes. -/
theorem IsBuiltin.serve_line_outcome (hs : s.IsBuiltin lookups) (w : World) (around : Surroundings)
    (line : List Char) :
    LineOutcome (s.amid around) lookups (w.amid around) line
      (((s.amid around).dispatch line).run.run (w.amid around)).1 (s.serve w (.line around line)) :=
  (hs.amid around).run_dispatch_outcome _ _

/-- Without a monitor command, no line touches the slot. -/
theorem IsBuiltin.serve_line_monitor (hs : s.IsBuiltin lookups) (hip : s.tools.has "ip" = false)
    (w : World) (around : Surroundings) (line : List Char) :
    (s.serve w (.line around line)).monitor = w.monitor := by
  have hleft := (hs.serve_line_outcome w around line).unwatched fun c inv chain reached hreach =>
    (hs.amid around).path_ne_monitor hip hreach
  exact hleft.monitor_eq

/-- Shutting down stops the monitor, if there can be one. -/
theorem IsBuiltin.serve_shutdown (hs : s.IsBuiltin lookups) (hw : s.Tidy w) :
    (s.serve w .shutdown).Watched ∧ (s.serve w .shutdown).monitor = none := by
  have hentries : ∀ e ∈ s.commands.entries,
      e.2.shutdown = pure () ∨ e.2.shutdown = Action.stopMonitor :=
    fun e he => shutdown_of_mem (hs.mem_entries_iff.mp he)
  obtain ⟨w', hrun, hwatched, hnone⟩ := run_release hentries w
  have hserve : s.serve w .shutdown = w' := congrArg Prod.snd hrun
  rw [hserve]
  refine ⟨hwatched hw.watched, hnone ?_⟩
  rcases hw.tool with hnone | hip
  · exact Or.inl hnone
  · exact Or.inr ⟨_, hs.mem_entries_iff.mpr (monitor_mem hip), rfl⟩

/-- A request leaves the world tidy. -/
theorem IsBuiltin.tidy_serve (hs : s.IsBuiltin lookups) (hw : s.Tidy w) (r : Request) :
    s.Tidy (s.serve w r) := by
  cases r with
  | line around text =>
    have houtcome := hs.serve_line_outcome w around text
    refine ⟨houtcome.watched (hw.watched.unwatched (.amid w around)), ?_⟩
    cases hip : s.tools.has "ip" with
    | true => exact Or.inr rfl
    | false =>
      rw [hs.serve_line_monitor hip]
      exact Or.inl (hw.monitor_eq_none hip)
  | shutdown =>
    obtain ⟨hwatched, hnone⟩ := hs.serve_shutdown hw
    exact ⟨hwatched, Or.inl hnone⟩

/-- The world is tidy after all requests. -/
theorem IsBuiltin.tidy_after (hs : s.IsBuiltin lookups) (net : Network) (requests : List Request) :
    s.Tidy (s.after net requests) := by
  unfold after
  have hstart : s.Tidy (.start net) := ⟨World.watched_start net, Or.inl rfl⟩
  generalize World.start net = w at hstart
  induction requests generalizing w with
  | nil => exact hstart
  | cons r requests ih => exact ih _ (hs.tidy_serve hstart r)

/-- After asking for no monitor, none runs. If there is no monitor command, none ever ran. -/
theorem IsBuiltin.serve_monitor_none (hs : s.IsBuiltin lookups) (hw : s.Tidy w)
    (around : Surroundings) :
    (s.serve w (.line around "monitor none".toList)).monitor = none := by
  have hline : Line.ofWords (["monitor"] ++ ["none"]) = "monitor none".toList := by decide
  cases hip : s.tools.has "ip" with
  | false =>
    rw [hs.serve_line_monitor hip]
    exact hw.monitor_eq_none hip
  | true =>
    have htypes := (hs.amid around).types_ofWords (monitor_mem hip) ["none"]
    rw [hline] at htypes
    have houtcome := hs.serve_line_outcome w around "monitor none".toList
    exact houtcome.monitor_eq_none (htypes.reaches rfl) rfl (Or.inl rfl)

end Runs

/-- **The slot of the monitor never leaks**: a shell is built whatever tools were found, and after any
requests the monitors that run are exactly those in the slot, of which there is at most one. In the whole
course of the run, at most one ran at any time, none ran when a new one was asked for and started, and
each was stopped at most once and only while it ran. None runs after shutting down, after `monitor none`,
and after a line that got as far as the monitor and asked for none or failed. A line that does not get as
far as the monitor leaves the slot as it was, and starts and stops nothing. -/
theorem monitor_never_leaks (config : Config) (tools : Toolbox) (lookups : Lookups) (disk : Disk)
    (launcher : Launcher) :
    ∃ s, build config tools lookups disk launcher = .ok s ∧
      ∀ (net : Network) (requests : List Request) (w : World), s.after net requests = w →
        alive w.trace = w.monitor.toList ∧ Orderly w.trace ∧
        alive (s.serve w .shutdown).trace = [] ∧
        ∀ (around : Surroundings) (line : List Char) (w' : World),
          s.serve w (.line around line) = w' →
          (line = "monitor none".toList → alive w'.trace = []) ∧
          (∀ c inv chain reached,
            Reaches (s.amid around) line (w.amid around) c inv chain reached → inv.path = ["monitor"] →
            (inv.args.head? = some "none" ∨
              ∃ e, (((s.amid around).dispatch line).run.run (w.amid around)).1 = .error e) →
            alive w'.trace = []) ∧
          ((∀ c inv chain reached,
            Reaches (s.amid around) line (w.amid around) c inv chain reached → inv.path ≠ ["monitor"]) →
            w.Unwatched w') := by
  obtain ⟨s, hbuild, hs, -, -⟩ := exists_build config tools lookups disk launcher
  refine ⟨s, hbuild, ?_⟩
  rintro net requests w rfl
  have htidy := hs.tidy_after net requests
  -- with an empty slot, no monitor runs
  have halive : ∀ {w : World}, w.Watched → w.monitor = none → alive w.trace = [] := by
    intro w hw hnone
    have h := Slot.Run.alive_eq hw
    rwa [World.slot, hnone] at h
  refine ⟨Slot.Run.alive_eq htidy.watched, Slot.Run.orderly htidy.watched, ?_, ?_⟩
  · obtain ⟨hwatched, hnone⟩ := hs.serve_shutdown htidy
    exact halive hwatched hnone
  · rintro around line w' rfl
    have hwatched := (hs.tidy_serve htidy (.line around line)).watched
    have houtcome := hs.serve_line_outcome (s.after net requests) around line
    refine ⟨?_, fun c inv chain reached hreach hpath hnone => ?_, fun hpath => ?_⟩
    · rintro rfl
      exact halive hwatched (hs.serve_monitor_none htidy around)
    · exact halive hwatched (houtcome.monitor_eq_none hreach hpath hnone)
    · exact (World.Unwatched.amid _ around).trans (houtcome.unwatched hpath)

end Shell

end RouterShell
