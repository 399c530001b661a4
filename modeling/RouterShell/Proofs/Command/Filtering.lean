import RouterShell.Command.Session
import RouterShell.Proofs.Command.Deed

/-!
# What filters keep

A line may name filters behind its command. They go over tables row by row, over texts line by line, and over
the lines of a monitor as they come. This module says what is kept of each: what every single filter admits.

## The model

`Filter.Admits` is what a filter asks of a row: its pattern occurs in a column, or in none. Which texts a
pattern occurs in is left open, so nothing here depends on what patterns mean. A line is a row of one column.

## What is proved

A chain keeps a row if every filter admits it (`FilterChain.passes_eq`), so the order of the filters does not
matter (`FilterChain.apply_perm`), tables may be filtered in several steps (`FilterChain.apply_apply`), and the
two filters of one pattern share out the rows between them (`FilterChain.apply_opposite`).
`filters_keep_what_all_admit` puts these together, with the monitor.
-/

namespace RouterShell

/-! ### Joined lines -/

theorem Text.joinWith_eq (sep : List Char) (parts : List (List Char)) :
    Text.joinWith sep parts = sep.intercalate parts := by
  induction parts using Text.joinWith.induct with
  | case1 => rfl
  | case2 part => simp [Text.joinWith]
  | case3 part rest hrest ih =>
    obtain ⟨next, others, rfl⟩ := List.exists_cons_of_ne_nil hrest
    rw [Text.joinWith, ih, List.intercalate_cons_cons, List.append_assoc]
    exact hrest

/-- Lines are joined by line feeds. -/
theorem joinLines_eq (lines : List String) : joinLines lines = "\n".intercalate lines := by
  rw [← String.toList_inj, String.toList_intercalate, joinLines, String.toList_ofList, Text.joinWith_eq]
  rfl

/-! ### Rows -/

/-- What a filter asks of a row. -/
def Filter.Admits (f : Filter) (row : List String) : Prop :=
  match f.kind with
  | .include => ∃ column ∈ row, f.occurs column = true
  | .exclude => ∀ column ∈ row, f.occurs column = false

theorem Filter.passes_iff (f : Filter) (row : List String) : f.passes row = true ↔ f.Admits row := by
  obtain ⟨kind, occurs⟩ := f
  cases kind
  · simp [passes, Admits, FilterKind.combine]
  · simp [passes, Admits, FilterKind.combine]

instance (f : Filter) (row : List String) : Decidable (f.Admits row) :=
  decidable_of_iff _ (f.passes_iff row)

namespace FilterChain

/-- A row passes a chain if all of its filters admit it. -/
theorem passes_eq (c : FilterChain) (row : List String) :
    c.passes row = decide (∀ f ∈ c.filters, f.Admits row) := by
  rw [Bool.eq_iff_iff, passes, List.all_eq_true, decide_eq_true_eq]
  exact forall₂_congr fun f _ => f.passes_iff row

/-- A line is tested as a row of one column. -/
theorem passesLine_eq (c : FilterChain) :
    c.passesLine = fun line => decide (∀ f ∈ c.filters, f.Admits [line]) :=
  funext fun line => c.passes_eq [line]

theorem passes_perm {fs fs' : List Filter} (h : fs'.Perm fs) : passes ⟨fs'⟩ = passes ⟨fs⟩ :=
  funext fun _ => h.all_eq

theorem passesLine_perm {fs fs' : List Filter} (h : fs'.Perm fs) : passesLine ⟨fs'⟩ = passesLine ⟨fs⟩ :=
  funext fun line => congrFun (passes_perm h) [line]

/-! ### Tables -/

/-- Of a table the rows are kept that pass. -/
theorem apply_table (c : FilterChain) (headers : List String) (rows : List (List String)) :
    c.apply (.table headers rows) = .table headers (rows.filter c.passes) := by
  rw [apply]
  split
  · next hempty =>
    -- without filters every row passes
    have hall : ∀ row ∈ rows, c.passes row = true := by
      intro row _
      rw [passes, List.isEmpty_iff.mp hempty, List.all_nil]
    rw [List.filter_eq_self.mpr hall]
  · rfl

/-- Filtering a table twice filters it with both chains. -/
theorem apply_apply (fs gs : List Filter) (headers : List String) (rows : List (List String)) :
    apply ⟨gs⟩ (apply ⟨fs⟩ (.table headers rows)) = apply ⟨fs ++ gs⟩ (.table headers rows) := by
  rw [apply_table, apply_table, apply_table, List.filter_filter]
  congr 1
  refine List.filter_congr fun row _ => ?_
  rw [passes_append, Bool.and_comm]

/-- One pattern admits the rows that it occurs in, and the others the other way round. -/
theorem apply_opposite (occurs : String → Bool) (headers : List String) (rows : List (List String)) :
    apply ⟨[⟨.include, occurs⟩]⟩ (.table headers rows) =
        .table headers (rows.filter fun row => row.any occurs) ∧
      apply ⟨[⟨.exclude, occurs⟩]⟩ (.table headers rows) =
        .table headers (rows.filter fun row => !row.any occurs) := by
  rw [apply_table, apply_table]
  constructor
  · congr 1
    refine List.filter_congr fun row _ => ?_
    simp [passes, Filter.passes, FilterKind.combine]
  · congr 1
    refine List.filter_congr fun row _ => ?_
    simp [passes, Filter.passes, FilterKind.combine]

/-! ### Texts -/

/-- Of a text the lines are kept that pass. -/
theorem apply_text {c : FilterChain} (hne : c.filters ≠ []) (text : String) :
    c.apply (.text text) =
      .text ("\n".intercalate (((Text.lines text.toList).map String.ofList).filter c.passesLine)) := by
  rw [apply, if_neg (by simpa using hne), applyText, joinLines_eq]

/-- The order of the filters has no part in what is kept, of whatever output. -/
theorem apply_perm {fs fs' : List Filter} (h : fs'.Perm fs) (output : Output) :
    apply ⟨fs'⟩ output = apply ⟨fs⟩ output := by
  simp only [apply, applyText, passes_perm h, passesLine_perm h, h.isEmpty_eq]

end FilterChain

/-! ### Monitors -/

/-- The line that an event prints. -/
def Event.printed? : Event → Option String
  | .printed line => some line
  | _ => none

namespace World

/-- The lines that were printed so far. -/
def printed (w : World) : List String := w.trace.filterMap Event.printed?

theorem printed_quiet (w : World) : w.quiet.printed = w.printed := by
  unfold quiet
  split
  · rfl
  · simp [printed, Event.printed?]

theorem printed_streamed (w : World) (run : Run) : (w.noted [.streamed run]).printed = w.printed := by
  simp [printed, noted, Event.printed?]

theorem printed_watching (w : World) (lines : List String) :
    (w.watching lines).printed = w.printed ++ lines := by
  have hlines : (lines.map Event.printed).filterMap Event.printed? = lines := by
    rw [List.filterMap_map]
    exact List.filterMap_some
  rw [printed, watching, List.filterMap_append, List.filterMap_cons_none rfl, hlines]
  rfl

end World

section Monitor

variable {env : Environment} {inv : Invocation} {object : String} {rest : List String}

/-- A monitor that can be started prints the lines of its stream that pass. -/
theorem printed_monitor {w : World} {run : Run} {lines : List String} (hargs : inv.args = object :: rest)
    (hsome : object ≠ "none")
    (hrun : env.tools.invocation w.network.active? "ip" (Session.monitorArgs object rest.head?) = .ok run)
    (hlines : env.launcher.stream run = .ok lines) :
    ((Session.monitor.execute env inv).run.run w).2.printed =
      w.printed ++ lines.filter env.filters.passesLine := by
  have hwatches := run_watches env w (Session.monitorArgs object rest.head?)
  rw [hrun] at hwatches
  simp only [hlines] at hwatches
  simp only [Session.monitor, hargs, if_neg hsome, hwatches]
  rw [World.printed_watching, World.printed_streamed, World.printed_quiet]

/-- The order of the filters has no part in what a monitor does. -/
theorem monitor_perm {fs fs' : List Filter} (h : fs'.Perm fs) :
    Session.monitor.execute { env with filters := ⟨fs'⟩ } inv =
      Session.monitor.execute { env with filters := ⟨fs⟩ } inv := by
  simp only [Session.monitor, Environment.startMonitor, FilterChain.passesLine_perm h]

end Monitor

/-- **Filters keep what all of them admit.** Of a table a chain keeps the headers, and exactly the rows that
every filter admits, in order; of a text, if there are filters, it keeps the lines that every filter admits as
rows of one column; and a monitor that is started with it prints exactly those lines of its stream. The order
of the filters has no part in any of this. Filtering a table with two chains, one after the other, filters
it with all of their filters. And what one pattern keeps of a table if it is to occur, and what it keeps if it
is not, are all rows, each in one of the two. -/
theorem filters_keep_what_all_admit :
    (∀ (c : FilterChain) (headers : List String) (rows : List (List String)),
      c.apply (.table headers rows) =
        .table headers (rows.filter fun row => ∀ f ∈ c.filters, f.Admits row)) ∧
    (∀ (c : FilterChain) (text : String), c.filters ≠ [] →
      c.apply (.text text) = .text ("\n".intercalate
        (((Text.lines text.toList).map String.ofList).filter fun line =>
          ∀ f ∈ c.filters, f.Admits [line]))) ∧
    (∀ (env : Environment) (inv : Invocation) (w : World) (object : String) (rest : List String) (run : Run)
      (lines : List String), inv.args = object :: rest → object ≠ "none" →
      env.tools.invocation w.network.active? "ip" (Session.monitorArgs object rest.head?) = .ok run →
      env.launcher.stream run = .ok lines →
      ((Session.monitor.execute env inv).run.run w).2.printed =
        w.printed ++ lines.filter fun line => ∀ f ∈ env.filters.filters, f.Admits [line]) ∧
    (∀ fs fs' : List Filter, fs'.Perm fs →
      (∀ output, FilterChain.apply ⟨fs'⟩ output = FilterChain.apply ⟨fs⟩ output) ∧
      ∀ (env : Environment) (inv : Invocation),
        Session.monitor.execute { env with filters := ⟨fs'⟩ } inv =
          Session.monitor.execute { env with filters := ⟨fs⟩ } inv) ∧
    (∀ (fs gs : List Filter) (headers : List String) (rows : List (List String)),
      FilterChain.apply ⟨gs⟩ (FilterChain.apply ⟨fs⟩ (.table headers rows)) =
        FilterChain.apply ⟨fs ++ gs⟩ (.table headers rows)) ∧
    ∀ (occurs : String → Bool) (headers : List String) (rows : List (List String)),
      FilterChain.apply ⟨[⟨.include, occurs⟩]⟩ (.table headers rows) =
          .table headers (rows.filter fun row => row.any occurs) ∧
        FilterChain.apply ⟨[⟨.exclude, occurs⟩]⟩ (.table headers rows) =
          .table headers (rows.filter fun row => !row.any occurs) := by
  refine ⟨fun c headers rows => ?_, fun c text hne => ?_, ?_, fun fs fs' h => ?_,
    FilterChain.apply_apply, FilterChain.apply_opposite⟩
  · rw [c.apply_table, funext c.passes_eq]
  · rw [FilterChain.apply_text hne, c.passesLine_eq]
  · intro env inv w object rest run lines hargs hsome hrun hlines
    rw [printed_monitor hargs hsome hrun hlines, env.filters.passesLine_eq]
  · exact ⟨FilterChain.apply_perm h, fun env inv => monitor_perm h⟩

end RouterShell
