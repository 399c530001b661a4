import RouterShell.Proofs.Command.Deed

/-!
# Monitors, started and stopped

A world keeps one monitor in a slot, and remembers in its trace which monitors were started and stopped.
This module ties the two: what the trace says of the monitors that run is what is in the slot.

## The model

`alive` reads the running monitors off a trace, without knowing of any slot. `Slot.Step` is what one
event can do to a slot: a monitor is only asked for and started while the slot is empty, with a number
that was not used yet, and only the monitor in the slot is stopped. `Slot.Run` is a trace of such steps,
from the empty slot.

## What is proved

In a run, the running monitors are those in the slot (`Slot.Run.alive_eq`), and so at most one runs at
any time, the old one is stopped before a new one is asked for, and none is stopped twice
(`Slot.Run.orderly`). Each deed carries a run on (`Outcome.watched`), and a deed that is not the
monitor's leaves the slot alone (`Outcome.unwatched`).
-/

namespace RouterShell

/-! ### Traces -/

/-- What an event does to the running monitors. -/
def Event.act (running : List Nat) : Event → List Nat
  | .started n => running ++ [n]
  | .stopped n => running.erase n
  | _ => running

/-- The monitors that run after some events: those that were started and were not stopped since. -/
def alive (trace : List Event) : List Nat := trace.foldl Event.act []

@[simp] theorem alive_append_singleton (trace : List Event) (e : Event) :
    alive (trace ++ [e]) = e.act (alive trace) := by
  simp [alive]

/-- Whether an event asks for, starts or stops a monitor. -/
def Event.isWatch : Event → Bool
  | .streamed _ => true
  | .started _ => true
  | .stopped _ => true
  | _ => false

theorem Event.act_of_not_watch {e : Event} (h : e.isWatch = false) (running : List Nat) :
    e.act running = running := by
  cases e with
  | started n => cases h
  | stopped n => cases h
  | _ => rfl

/-- The monitor that an event starts or stops. -/
def Event.monitor? : Event → Option Nat
  | .started n => some n
  | .stopped n => some n
  | _ => none

theorem Event.monitor?_of_not_watch {e : Event} (h : e.isWatch = false) : e.monitor? = none := by
  cases e with
  | started n => cases h
  | stopped n => cases h
  | _ => rfl

/-- The monitors of a trace follow one another. -/
structure Orderly (trace : List Event) : Prop where
  /-- At most one runs at any time. -/
  one : ∀ past, past <+: trace → (alive past).length ≤ 1
  /-- None runs when a new one is asked for. -/
  streamed : ∀ past run, past ++ [.streamed run] <+: trace → alive past = []
  /-- None runs when a new one starts, which was not started before. -/
  started : ∀ past n, past ++ [.started n] <+: trace → alive past = [] ∧ .started n ∉ past
  /-- The one that is stopped was running, and was not stopped before. -/
  stopped : ∀ past n, past ++ [.stopped n] <+: trace → alive past = [n] ∧ .stopped n ∉ past

/-! ### The slot -/

/-- The place for the monitor. -/
structure Slot where
  /-- The monitor in it. -/
  running : Option Nat
  /-- How many monitors were in it so far. -/
  count : Nat

namespace Slot

/-- The place before any monitor was started. -/
def fresh : Slot := ⟨none, 0⟩

/-- What an event does to the place. -/
inductive Step : Slot → Event → Slot → Prop where
  /-- The event has nothing to do with monitors. -/
  | other {m : Slot} {e : Event} : e.isWatch = false → Step m e m
  /-- A monitor is asked for. -/
  | streamed {k : Nat} {run : Run} : Step ⟨none, k⟩ (.streamed run) ⟨none, k⟩
  /-- A monitor is started. -/
  | started {k : Nat} : Step ⟨none, k⟩ (.started k) ⟨some k, k + 1⟩
  /-- The monitor is stopped. -/
  | stopped {n k : Nat} : Step ⟨some n, k⟩ (.stopped n) ⟨none, k⟩

/-- A trace takes the place from fresh to another. -/
inductive Run : List Event → Slot → Prop where
  /-- Nothing has happened. -/
  | start : Run [] fresh
  /-- One more event happens. -/
  | next {trace : List Event} {e : Event} {m m' : Slot} :
      Run trace m → Step m e m' → Run (trace ++ [e]) m'

variable {trace past : List Event} {e : Event} {m m' : Slot} {n k : Nat}

theorem Step.act_eq (h : Step m e m') : e.act m.running.toList = m'.running.toList := by
  cases h with
  | other he => exact Event.act_of_not_watch he _
  | streamed => rfl
  | started => rfl
  | stopped => simp [Event.act]

/-- The running monitors are those in the slot. -/
theorem Run.alive_eq (h : Run trace m) : alive trace = m.running.toList := by
  induction h with
  | start => rfl
  | next _ hstep ih => rw [alive_append_singleton, ih, hstep.act_eq]

/-- Events that have nothing to do with monitors carry a run on. -/
theorem Run.append {events : List Event} (h : Run trace m) (hevents : ∀ e ∈ events, e.isWatch = false) :
    Run (trace ++ events) m := by
  induction events generalizing trace with
  | nil => rwa [List.append_nil]
  | cons e events ih =>
    have hnext : Run (trace ++ [e]) m := h.next (.other (hevents e List.mem_cons_self))
    have hrun := ih hnext fun e he => hevents e (List.mem_cons_of_mem _ he)
    rwa [List.append_assoc, List.singleton_append] at hrun

/-- A trace that ends in an event was a run before it. -/
theorem Run.last (h : Run (past ++ [e]) m') : ∃ m, Run past m ∧ Step m e m' := by
  generalize htrace : past ++ [e] = trace at h
  cases h with
  | start => exact absurd htrace (List.append_ne_nil_of_right_ne_nil past (List.cons_ne_nil e []))
  | next hrun hstep =>
    obtain ⟨rfl, hlast⟩ := List.append_inj' htrace rfl
    obtain rfl : e = _ := List.head_eq_of_cons_eq hlast
    exact ⟨_, hrun, hstep⟩

/-- A run was a run at any time. -/
theorem Run.before (h : Run trace m) (hpast : past <+: trace) : ∃ m, Run past m := by
  induction h with
  | start =>
    rw [List.prefix_nil] at hpast
    exact ⟨fresh, hpast ▸ .start⟩
  | next hrun hstep ih =>
    rcases List.prefix_concat_iff.mp hpast with rfl | hpast
    · exact ⟨_, hrun.next hstep⟩
    · exact ih hpast

/-- The number of the monitor in a place was used. -/
def Used (m : Slot) : Prop := ∀ n, m.running = some n → n < m.count

theorem Step.count_le (h : Step m e m') : m.count ≤ m'.count := by
  cases h with
  | other _ => exact Nat.le_refl _
  | streamed => exact Nat.le_refl _
  | started => exact Nat.le_succ _
  | stopped => exact Nat.le_refl _

theorem Step.used (h : Step m e m') (hm : m.Used) : m'.Used := by
  cases h with
  | other _ => exact hm
  | streamed => exact hm
  | @started k =>
    intro n hn
    obtain rfl : k = n := Option.some.inj hn
    exact Nat.lt_succ_self k
  | stopped =>
    intro n hn
    cases hn

/-- The number that an event gives to a monitor was used after it. -/
theorem Step.lt_count (h : Step m e m') (hm : m.Used) (hn : e.monitor? = some n) : n < m'.count := by
  cases h with
  | other he =>
    rw [Event.monitor?_of_not_watch he] at hn
    cases hn
  | streamed => cases hn
  | @started k =>
    obtain rfl : k = n := Option.some.inj hn
    exact Nat.lt_succ_self k
  | @stopped n' k =>
    obtain rfl : n' = n := Option.some.inj hn
    exact hm n' rfl

/-- The numbers of the monitors that were started and stopped, and of the one in the slot, were used. -/
theorem Run.used (h : Run trace m) :
    m.Used ∧ ∀ e ∈ trace, ∀ n, e.monitor? = some n → n < m.count := by
  induction h with
  | start =>
    refine ⟨fun n hn => ?_, fun e he => ?_⟩
    · cases hn
    · cases he
  | next _ hstep ih =>
    obtain ⟨hused, hpast⟩ := ih
    refine ⟨hstep.used hused, fun e he n hn => ?_⟩
    rcases List.mem_append.mp he with he | he
    · exact Nat.lt_of_lt_of_le (hpast e he n hn) hstep.count_le
    · obtain rfl := List.mem_singleton.mp he
      exact hstep.lt_count hused hn

/-- The monitor in the slot was not stopped. Its number was new when it was started, and what was stopped
before had an older one. -/
theorem Run.not_stopped (h : Run trace m) (hn : m.running = some n) : Event.stopped n ∉ trace := by
  induction h with
  | start => cases hn
  | @next trace e m m' hrun hstep ih =>
    rw [List.mem_append, List.mem_singleton]
    cases hstep with
    | other he =>
      rintro (hmem | rfl)
      · exact ih hn hmem
      · cases he
    | streamed => cases hn
    | @started k =>
      obtain rfl : k = n := Option.some.inj hn
      rintro (hmem | hmem)
      · exact Nat.lt_irrefl k (hrun.used.2 _ hmem k rfl)
      · cases hmem
    | stopped => cases hn

/-- The monitors of a run follow one another. -/
theorem Run.orderly (h : Run trace m) : Orderly trace where
  one past hpast := by
    obtain ⟨m, hm⟩ := h.before hpast
    rw [hm.alive_eq]
    exact Option.length_toList_le
  streamed past run hpast := by
    obtain ⟨m', hm'⟩ := h.before hpast
    obtain ⟨m, hm, hstep⟩ := hm'.last
    cases hstep with
    | other he => cases he
    | streamed => exact hm.alive_eq
  started past n hpast := by
    obtain ⟨m', hm'⟩ := h.before hpast
    obtain ⟨m, hm, hstep⟩ := hm'.last
    cases hstep with
    | other he => cases he
    | started => exact ⟨hm.alive_eq, fun hmem => Nat.lt_irrefl n (hm.used.2 _ hmem n rfl)⟩
  stopped past n hpast := by
    obtain ⟨m', hm'⟩ := h.before hpast
    obtain ⟨m, hm, hstep⟩ := hm'.last
    cases hstep with
    | other he => cases he
    | stopped => exact ⟨hm.alive_eq, hm.not_stopped rfl⟩

end Slot

/-! ### The slot of a world -/

namespace World

/-- The slot of a world. -/
def slot (w : World) : Slot := ⟨w.monitor, w.monitors⟩

/-- What the trace of a world says of monitors is what is in its slot. -/
def Watched (w : World) : Prop := Slot.Run w.trace w.slot

/-- From one world to another the monitor was left alone. -/
structure Unwatched (w w' : World) : Prop where
  /-- The slot is the same. -/
  slot : w'.slot = w.slot
  /-- Nothing has happened to a monitor. -/
  trace : ∃ events, w'.trace = w.trace ++ events ∧ ∀ e ∈ events, e.isWatch = false

variable {w w' w'' : World}

theorem Unwatched.refl (w : World) : Unwatched w w := ⟨rfl, [], by simp⟩

theorem Unwatched.trans (h : Unwatched w w') (h' : Unwatched w' w'') : Unwatched w w'' := by
  obtain ⟨hslot, events, htrace, hquiet⟩ := h
  obtain ⟨hslot', events', htrace', hquiet'⟩ := h'
  refine ⟨hslot'.trans hslot, events ++ events', ?_, fun e he => ?_⟩
  · rw [htrace', htrace, List.append_assoc]
  · rcases List.mem_append.mp he with he | he
    · exact hquiet e he
    · exact hquiet' e he

theorem Unwatched.noted (w : World) {events : List Event} (h : ∀ e ∈ events, e.isWatch = false) :
    Unwatched w (w.noted events) :=
  ⟨rfl, events, rfl, h⟩

theorem Unwatched.asked (w : World) (runs : List Run) : Unwatched w (w.asked runs) := by
  refine Unwatched.noted w fun e he => ?_
  obtain ⟨run, -, rfl⟩ := List.mem_map.mp he
  rfl

theorem Unwatched.monitor_eq (h : Unwatched w w') : w'.monitor = w.monitor :=
  congrArg Slot.running h.slot

theorem watched_start (net : Network) : Watched (start net) := Slot.Run.start

theorem Watched.unwatched (h : Watched w) (hleft : Unwatched w w') : Watched w' := by
  obtain ⟨hslot, events, htrace, hquiet⟩ := hleft
  rw [Watched, hslot, htrace]
  exact h.append hquiet

theorem Watched.quiet (h : Watched w) : Watched w.quiet := by
  obtain ⟨network, monitor, monitors, trace⟩ := w
  cases monitor with
  | none => exact h
  | some n => exact Slot.Run.next h .stopped

theorem Watched.streamed (h : Watched w) (hnone : w.monitor = none) (run : Run) :
    Watched (w.noted [.streamed run]) := by
  obtain ⟨network, monitor, monitors, trace⟩ := w
  obtain rfl : monitor = none := hnone
  exact Slot.Run.next h .streamed

theorem Watched.watching (h : Watched w) (hnone : w.monitor = none) (lines : List String) :
    Watched (w.watching lines) := by
  obtain ⟨network, monitor, monitors, trace⟩ := w
  obtain rfl : monitor = none := hnone
  -- the monitor is started first, and then prints its lines
  let begun : World := ⟨network, some monitors, monitors + 1, trace ++ [.started monitors]⟩
  have hbegun : Watched begun := Slot.Run.next h .started
  refine hbegun.unwatched ⟨rfl, lines.map Event.printed, ?_, fun e he => ?_⟩
  · simp [begun, World.watching]
  · obtain ⟨line, -, rfl⟩ := List.mem_map.mp he
    rfl

end World

/-! ### Deeds and the slot -/

/-- Whether a deed is the monitor's. -/
def Deed.isWatch : Deed → Bool
  | .stops => true
  | .watches _ => true
  | _ => false

namespace Deed

/-- Every deed of the monitor is about monitors. -/
theorem isWatch_ofMonitor (args : List String) : (ofMonitor args).isWatch = true := by
  unfold ofMonitor
  split
  · rfl
  · split <;> rfl

/-- Asking for none stops the monitor. -/
theorem ofMonitor_none {args : List String} (h : args.head? = some "none") :
    ofMonitor args = .stops := by
  obtain ⟨rest, rfl⟩ := List.head?_eq_some_iff.mp h
  rfl

/-- Only the deeds of the monitor are about monitors. -/
theorem path_of_isWatch {config : Config} {path args : List String}
    (h : (of config path args).isWatch = true) : path = ["monitor"] := by
  rcases of_cases config path args with ⟨-, hd⟩ | ⟨hpath, -⟩ | hd | ⟨tool, toolArgs, hd⟩
  · rw [hd] at h
    cases h
  · exact hpath
  · rw [hd] at h
    cases h
  · rw [hd] at h
    cases h

end Deed

section Outcomes

variable {env : Environment} {w w' : World} {d : Deed} {result : Except ShellError Output}

/-- A deed that is not the monitor's leaves the monitor alone. -/
theorem Outcome.unwatched (h : Outcome env w d result w') (hd : d.isWatch = false) :
    w.Unwatched w' := by
  cases h with
  | read _ => exact .asked w _
  | unavailable _ => exact .refl w
  | unlaunched _ _ => exact .noted w (by simp [Event.isWatch])
  | ran _ _ => exact .noted w (by simp [Event.isWatch])
  | absent _ => exact .refl w
  | entered _ => exact ⟨rfl, [], by simp⟩
  | stopped => cases hd
  | unwatchable _ => cases hd
  | unstarted _ _ => cases hd
  | watching _ _ => cases hd

/-- After any deed, what the trace says of monitors is what is in the slot. -/
theorem Outcome.watched (h : Outcome env w d result w') (hw : w.Watched) : w'.Watched := by
  cases hd : d.isWatch with
  | false => exact hw.unwatched (h.unwatched hd)
  | true =>
    have hquiet := hw.quiet
    have hnone := w.monitor_quiet
    cases h with
    | stopped => exact hquiet
    | unwatchable _ => exact hquiet
    | unstarted _ _ => exact hquiet.streamed hnone _
    | watching _ _ => exact (hquiet.streamed hnone _).watching hnone _
    | _ => cases hd

/-- No monitor runs after a deed of the monitor that fails or starts none. -/
theorem Outcome.monitor_eq_none (h : Outcome env w d result w') (hd : d.isWatch = true)
    (hnone : d = .stops ∨ ∃ e, result = .error e) : w'.monitor = none := by
  cases h with
  | stopped => exact w.monitor_quiet
  | unwatchable _ => exact w.monitor_quiet
  | unstarted _ _ => exact w.monitor_quiet
  | watching _ _ =>
    rcases hnone with h | ⟨e, h⟩
    · cases h
    · cases h
  | _ => cases hd

end Outcomes

end RouterShell
