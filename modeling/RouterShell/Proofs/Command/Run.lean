import RouterShell.Command.Action

/-!
# Running an action

What an action does to a world, part by part: the parts run one after the other until one of them
fails, and the world stays as the failing one left it. Each of the small actions has one equation, so
that a longer action is taken apart by naming what its first part gives.
-/

namespace RouterShell

namespace World

/-- The world after programs were run to answer questions about the network. -/
def asked (w : World) (runs : List Run) : World :=
  { w with trace := w.trace ++ runs.map Event.asked }

@[simp] theorem asked_nil (w : World) : w.asked [] = w := by
  simp [asked]

@[simp] theorem asked_append (w : World) (runs runs' : List Run) :
    (w.asked runs).asked runs' = w.asked (runs ++ runs') := by
  simp [asked]

@[simp] theorem network_asked (w : World) (runs : List Run) : (w.asked runs).network = w.network := rfl

/-- The world after some events. -/
def noted (w : World) (events : List Event) : World :=
  { w with trace := w.trace ++ events }

@[simp] theorem network_noted (w : World) (events : List Event) :
    (w.noted events).network = w.network := rfl

/-- The world after the monitor was stopped, if there was one. -/
def quiet (w : World) : World :=
  match w.monitor with
  | none => w
  | some n => { w with monitor := none, trace := w.trace ++ [.stopped n] }

@[simp] theorem network_quiet (w : World) : w.quiet.network = w.network := by
  unfold quiet
  split <;> rfl

@[simp] theorem monitor_quiet (w : World) : w.quiet.monitor = none := by
  unfold quiet
  split
  · assumption
  · rfl

/-- The world after a monitor was started, which printed some lines. -/
def watching (w : World) (lines : List String) : World :=
  { w with
    monitor := some w.monitors
    monitors := w.monitors + 1
    trace := w.trace ++ .started w.monitors :: lines.map Event.printed }

@[simp] theorem network_watching (w : World) (lines : List String) :
    (w.watching lines).network = w.network := rfl

end World

/-- The program that an event hands over to the launcher. -/
def Event.launch? : Event → Option Run
  | .launched run => some run
  | .streamed run => some run
  | _ => none

namespace World

/-- The programs that were handed over to the launcher so far. -/
def launches (w : World) : List Run := w.trace.filterMap Event.launch?

@[simp] theorem launches_noted (w : World) (events : List Event) :
    (w.noted events).launches = w.launches ++ events.filterMap Event.launch? := by
  simp [launches, noted]

@[simp] theorem launches_asked (w : World) (runs : List Run) : (w.asked runs).launches = w.launches := by
  simp [launches, asked, Function.comp_def, Event.launch?]

@[simp] theorem launches_quiet (w : World) : w.quiet.launches = w.launches := by
  unfold quiet
  split
  · rfl
  · simp [launches, Event.launch?]

@[simp] theorem launches_watching (w : World) (lines : List String) :
    (w.watching lines).launches = w.launches := by
  simp [launches, watching, Event.launch?]

end World

namespace Action

variable {α β ε : Type}

/-- If the first part gives a value, the rest goes on with it in the world that it left. -/
theorem run_bind_ok {x : Action α} {f : α → Action β} {w w' : World} {a : α}
    (h : x.run.run w = (.ok a, w')) : (x >>= f).run.run w = (f a).run.run w' := by
  rw [ExceptT.run_bind, StateT.run_bind, h]
  rfl

/-- If the first part fails, so does the whole. -/
theorem run_bind_error {x : Action α} {f : α → Action β} {w w' : World} {e : ShellError}
    (h : x.run.run w = (.error e, w')) : (x >>= f).run.run w = (.error e, w') := by
  rw [ExceptT.run_bind, StateT.run_bind, h]
  rfl

theorem run_throw (e : ShellError) (w : World) :
    (throw e : Action α).run.run w = (.error e, w) := rfl

theorem run_ofExcept_ok (error : ε → ShellError) (a : α) (w : World) :
    (ofExcept error (.ok a)).run.run w = (.ok a, w) := rfl

theorem run_ofExcept_error (error : ε → ShellError) (e : ε) (w : World) :
    (ofExcept error (.error e) : Action α).run.run w = (.error (error e), w) := rfl

/-- A question is answered in the present network, and the programs that it ran are remembered. -/
theorem run_ask (question : Network → Logged α) (w : World) :
    (ask question).run.run w =
      (.ok (question w.network).value, w.asked (question w.network).runs) := rfl

theorem run_note (events : List Event) (w : World) :
    (note events).run.run w = (.ok (), w.noted events) := rfl

theorem run_activeNamespace (w : World) :
    activeNamespace.run.run w = (.ok w.network.active?, w) := rfl

/-- A question whose answer may be a failure fails as its answer does. -/
theorem run_query (question : Network → Logged (Except QueryFault α)) (w : World) :
    (query question).run.run w =
      ((question w.network).value.mapError .query, w.asked (question w.network).runs) := by
  rw [query, run_bind_ok (run_ask question w)]
  cases (question w.network).value with
  | ok a => rfl
  | error e => rfl

/-- Only a namespace that can be read is entered. -/
theorem run_enter (ns : Option String) (w : World) :
    (enter ns).run.run w =
      match w.network.within ns with
      | .ok network => (.ok (), { w with network })
      | .error fault => (.error (.query fault), w) := by
  have hget : (get : Action World).run.run w = (.ok w, w) := rfl
  rw [enter, run_bind_ok hget]
  cases w.network.within ns with
  | ok network => rfl
  | error fault => rfl

theorem run_stopMonitor (w : World) : stopMonitor.run.run w = (.ok (), w.quiet) := by
  obtain ⟨network, monitor, monitors, trace⟩ := w
  cases monitor with
  | none => rfl
  | some n => rfl

end Action

namespace Environment

variable (env : Environment) (tool : String) (args : List String) (w : World)

/-- A tool is run once, if there is a program that runs it in the active namespace. -/
theorem run_runTool :
    (env.runTool tool args).run.run w =
      match env.tools.invocation w.network.active? tool args with
      | .error fault => (.error (.command fault), w)
      | .ok run =>
        match env.launcher.run run with
        | .error fault => (.error (.process fault), w.noted [.launched run])
        | .ok _ => (.ok .none, w.noted [.launched run]) := by
  rw [runTool, Action.run_bind_ok (Action.run_activeNamespace w)]
  cases env.tools.invocation w.network.active? tool args with
  | error fault => rfl
  | ok run =>
    dsimp only
    rw [Action.run_bind_ok (Action.run_ofExcept_ok _ run w), Action.run_bind_ok (Action.run_note _ w)]
    cases env.launcher.run run with
    | error fault => rfl
    | ok code => rfl

/-- A monitor is started, if there is a program that runs its tool in the active namespace and it can be
started. -/
theorem run_startMonitor :
    (env.startMonitor tool args).run.run w =
      match env.tools.invocation w.network.active? tool args with
      | .error fault => (.error (.command fault), w)
      | .ok run =>
        match env.launcher.stream run with
        | .error fault => (.error (.process fault), w.noted [.streamed run])
        | .ok lines =>
          (.ok (), (w.noted [.streamed run]).watching (lines.filter env.filters.passesLine)) := by
  rw [startMonitor, Action.run_bind_ok (Action.run_activeNamespace w)]
  cases env.tools.invocation w.network.active? tool args with
  | error fault => rfl
  | ok run =>
    dsimp only
    rw [Action.run_bind_ok (Action.run_ofExcept_ok _ run w), Action.run_bind_ok (Action.run_note _ w)]
    cases env.launcher.stream run with
    | error fault => rfl
    | ok lines => rfl

end Environment

end RouterShell
