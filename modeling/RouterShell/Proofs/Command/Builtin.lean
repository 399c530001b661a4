import Mathlib.Data.List.Nodup
import RouterShell.Command.Builtin
import RouterShell.Proofs.Command.Entries

/-!
# The commands of the shell are entered

Whatever tools were found, the paths of the commands are among a fixed list of well-formed, distinct
paths, in the order of that list (`paths_sublist`). So every one of them is accepted, and the tree of
the shell stores exactly them (`exists_registerAll`).
-/

namespace RouterShell

open CommandTree

/-- The paths of the commands of a family. -/
def familyPaths (word : String) : List (List String) :=
  [["show", word, "address"], ["show", word, "neighbour"], ["show", word, "rule"],
    ["show", word, "route"]]

/-- The paths of all commands there can be. -/
def builtinPaths : List (List String) :=
  [["show", "interface"]] ++
  familyPaths "ip" ++
  familyPaths "ipv6" ++
  [["show", "bridge", "fdb"], ["show", "netns"]] ++
  [["show", "ifstate", "config"]] ++
  [["enable", "interface"], ["disable", "interface"]] ++
  [["reset", "interface"], ["renegotiate", "interface"], ["identify", "interface"]] ++
  [["netns"]] ++
  [["monitor"]] ++
  [["help"], ["exit"]] ++
  ToolCommand.all.map fun t => [t.tool]

theorem nodup_builtinPaths : builtinPaths.Nodup := by decide

theorem isPath_of_mem_builtinPaths : ∀ path ∈ builtinPaths, IsPath path := by decide

/-- No path is the beginning of another one. -/
theorem eq_of_prefix_builtinPaths : ∀ p ∈ builtinPaths, ∀ q ∈ builtinPaths, p <+: q → p = q := by
  decide

theorem provided_sublist (condition : Bool) (entries : List (List String × Command)) :
    ((provided condition entries).map Prod.fst).Sublist (entries.map Prod.fst) := by
  rw [provided]
  split
  · exact List.Sublist.refl _
  · exact List.nil_sublist _

/-- The paths of the commands that tools provide are some of all paths, in order. -/
theorem paths_sublist (tools : Toolbox) (lookups : Lookups) :
    ((builtinCommands tools lookups).map Prod.fst).Sublist builtinPaths := by
  have htools : (((ToolCommand.all.filter fun t => tools.has t.tool).map
      fun t => ([t.tool], t.command)).map Prod.fst).Sublist (ToolCommand.all.map fun t => [t.tool]) := by
    rw [List.map_map]
    exact List.filter_sublist.map _
  simp only [builtinCommands, List.map_append]
  refine List.Sublist.append ?_ htools
  refine List.Sublist.append ?_ (List.Sublist.refl _)
  refine List.Sublist.append ?_ (provided_sublist _ _)
  refine List.Sublist.append ?_ (List.Sublist.refl _)
  refine List.Sublist.append ?_ (provided_sublist _ _)
  refine List.Sublist.append ?_ (provided_sublist _ _)
  refine List.Sublist.append ?_ (provided_sublist _ _)
  exact List.Sublist.refl _

section Commands

variable {tools : Toolbox} {lookups : Lookups}

theorem mem_provided {condition : Bool} {entries : List (List String × Command)}
    {e : List String × Command} :
    e ∈ provided condition entries ↔ condition = true ∧ e ∈ entries := by
  cases condition with
  | true => simp [provided]
  | false => simp [provided]

theorem mem_builtinPaths {e : List String × Command} (h : e ∈ builtinCommands tools lookups) :
    e.1 ∈ builtinPaths :=
  (paths_sublist tools lookups).subset (List.mem_map_of_mem h)

/-- The commands one by one, with their paths and the tools that they need. -/
inductive Offered (tools : Toolbox) (lookups : Lookups) : List String → Command → Prop where
  /-- Interfaces are shown. -/
  | interface : Offered tools lookups ["show", "interface"] (Show.interface (tools.has "ethtool"))
  /-- The addresses of a family are shown. -/
  | address (word : String) (family : Family) :
      Offered tools lookups ["show", word, "address"] (Show.address family)
  /-- The neighbours of a family are shown. -/
  | neighbour (word : String) (family : Family) :
      Offered tools lookups ["show", word, "neighbour"] (Show.neighbour family)
  /-- The rules of a family are shown. -/
  | rule (word : String) (family : Family) :
      Offered tools lookups ["show", word, "rule"] (Show.rule family)
  /-- The routes of a family are shown. -/
  | route (word : String) (family : Family) :
      Offered tools lookups ["show", word, "route"] (Show.route lookups family)
  /-- The forwarding database is shown. -/
  | fdb : Offered tools lookups ["show", "bridge", "fdb"] (Show.neighbour .bridge)
  /-- The namespaces are shown. -/
  | namespaces : Offered tools lookups ["show", "netns"] Show.namespaces
  /-- The file of `ifstate` is shown. -/
  | ifstateConfig : tools.has "ifstatecli" = true →
      Offered tools lookups ["show", "ifstate", "config"] Show.ifstateConfig
  /-- An interface is enabled. -/
  | enable : tools.has "ip" = true →
      Offered tools lookups ["enable", "interface"] (Interface.setState true)
  /-- An interface is disabled. -/
  | disable : tools.has "ip" = true →
      Offered tools lookups ["disable", "interface"] (Interface.setState false)
  /-- An interface is reset. -/
  | reset : tools.has "ethtool" = true → Offered tools lookups ["reset", "interface"] Interface.reset
  /-- The negotiation of an interface is restarted. -/
  | renegotiate : tools.has "ethtool" = true →
      Offered tools lookups ["renegotiate", "interface"] Interface.renegotiate
  /-- An interface is made to blink. -/
  | identify : tools.has "ethtool" = true →
      Offered tools lookups ["identify", "interface"] Interface.identify
  /-- The namespace is switched. -/
  | netns : Offered tools lookups ["netns"] Session.netns
  /-- Changes are watched. -/
  | monitor : tools.has "ip" = true → Offered tools lookups ["monitor"] Session.monitor
  /-- Help is given. -/
  | help : Offered tools lookups ["help"] Session.help
  /-- The shell is left. -/
  | exit : Offered tools lookups ["exit"] Session.exit
  /-- A tool is run as it is. -/
  | tool {t : ToolCommand} : t ∈ ToolCommand.all → tools.has t.tool = true →
      Offered tools lookups [t.tool] t.command

theorem offered_of_mem_family {word : String} {family : Family} {path : List String} {c : Command}
    (h : (path, c) ∈ familyCommands lookups word family) : Offered tools lookups path c := by
  simp only [familyCommands, List.mem_cons, Prod.mk.injEq, List.not_mem_nil, or_false] at h
  rcases h with ⟨rfl, rfl⟩ | ⟨rfl, rfl⟩ | ⟨rfl, rfl⟩ | ⟨rfl, rfl⟩
  · exact .address word family
  · exact .neighbour word family
  · exact .rule word family
  · exact .route word family

/-- There are no other commands. -/
theorem offered_of_mem {path : List String} {c : Command}
    (h : (path, c) ∈ builtinCommands tools lookups) : Offered tools lookups path c := by
  simp only [builtinCommands, List.mem_append, mem_provided, List.mem_cons, List.mem_map,
    Prod.mk.injEq, List.not_mem_nil, or_false] at h
  rcases h with (((((((((⟨rfl, rfl⟩ | h) | h) | h) | h) | h) | h) | ⟨rfl, rfl⟩) | h) | h) | h
  · exact .interface
  · exact offered_of_mem_family h
  · exact offered_of_mem_family h
  · rcases h with ⟨rfl, rfl⟩ | ⟨rfl, rfl⟩
    · exact .fdb
    · exact .namespaces
  · obtain ⟨hcli, rfl, rfl⟩ := h
    exact .ifstateConfig hcli
  · rcases h with ⟨hip, ⟨rfl, rfl⟩ | ⟨rfl, rfl⟩⟩
    · exact .enable hip
    · exact .disable hip
  · rcases h with ⟨hethtool, ⟨rfl, rfl⟩ | ⟨rfl, rfl⟩ | ⟨rfl, rfl⟩⟩
    · exact .reset hethtool
    · exact .renegotiate hethtool
    · exact .identify hethtool
  · exact .netns
  · obtain ⟨hip, rfl, rfl⟩ := h
    exact .monitor hip
  · rcases h with ⟨rfl, rfl⟩ | ⟨rfl, rfl⟩
    · exact .help
    · exact .exit
  · obtain ⟨t, ht, rfl, rfl⟩ := h
    obtain ⟨hall, hhas⟩ := List.mem_filter.mp ht
    exact .tool hall hhas

/-- A path belongs to one command. -/
theorem builtin_unique {path : List String} {c c' : Command}
    (h : (path, c) ∈ builtinCommands tools lookups)
    (h' : (path, c') ∈ builtinCommands tools lookups) : c = c' := by
  have hnodup := (paths_sublist tools lookups).nodup nodup_builtinPaths
  have heq := List.inj_on_of_nodup_map hnodup h h' rfl
  exact (Prod.mk.inj heq).2

/-- The namespace can always be switched. -/
theorem netns_mem : (["netns"], Session.netns) ∈ builtinCommands tools lookups := by
  simp [builtinCommands]

theorem eq_netns_of_mem {c : Command} (h : (["netns"], c) ∈ builtinCommands tools lookups) :
    c = Session.netns :=
  builtin_unique h netns_mem

/-- There is a monitor if `ip` was found. -/
theorem monitor_mem (hip : tools.has "ip" = true) :
    (["monitor"], Session.monitor) ∈ builtinCommands tools lookups := by
  simp [builtinCommands, mem_provided, hip]

/-- There is no monitor without `ip`. -/
theorem has_ip_of_monitor {c : Command} (h : (["monitor"], c) ∈ builtinCommands tools lookups) :
    tools.has "ip" = true := by
  simp only [builtinCommands, familyCommands, List.mem_append, mem_provided, List.mem_cons,
    List.mem_map, Prod.mk.injEq, List.cons.injEq, List.not_mem_nil] at h
  have htool : ∀ t ∈ ToolCommand.all, t.tool ≠ "monitor" := by decide
  grind

theorem eq_monitor_of_mem {c : Command} (h : (["monitor"], c) ∈ builtinCommands tools lookups) :
    c = Session.monitor :=
  builtin_unique h (monitor_mem (has_ip_of_monitor h))

/-- No command has a path that begins with the whole path of another one. -/
theorem not_follows_builtin {path : List String} {c : Command}
    (h : (path, c) ∈ builtinCommands tools lookups) (w : String) :
    ¬ Follows (builtinCommands tools lookups) path w := by
  rintro ⟨r, c', h'⟩
  have heq : path = path ++ w :: r :=
    eq_of_prefix_builtinPaths path (mem_builtinPaths h) _ (mem_builtinPaths h') (List.prefix_append _ _)
  exact List.cons_ne_nil w r (List.self_eq_append_right.mp heq)

/-- All commands are accepted, and the tree stores exactly them. -/
theorem exists_registerAll (tools : Toolbox) (lookups : Lookups) :
    ∃ t, registerAll (builtinCommands tools lookups) = .ok t ∧
      Represents t (builtinCommands tools lookups) := by
  have hpaths : ∀ e ∈ builtinCommands tools lookups, IsPath e.1 :=
    fun e he => isPath_of_mem_builtinPaths e.1 (mem_builtinPaths he)
  have hnodup := (paths_sublist tools lookups).nodup nodup_builtinPaths
  obtain ⟨t, ht, hrep⟩ := foldlM_register Represents.empty hpaths (by rwa [List.nil_append])
  exact ⟨t, ht, hrep⟩

/-- Typing the whole path of a command selects it and leaves the words behind it. -/
theorem resolve_builtin {t : CommandTree Command} (ht : Represents t (builtinCommands tools lookups))
    {path : List String} {c : Command} (h : (path, c) ∈ builtinCommands tools lookups)
    (args : List String) : t.resolve (path ++ args) = ⟨path.length, some c, path, args⟩ :=
  ht.resolve_append (isPath_of_mem_builtinPaths path (mem_builtinPaths h)) h (not_follows_builtin h) args

end Commands

end RouterShell
