import RouterShell.Config.File
import RouterShell.Proofs.Toml.Statements
import RouterShell.Proofs.Toml.Tables

/-!
# Settings, written and read again

Settings are written as lines of TOML and read from any text in TOML. This module says what becomes of settings that
are written and then read, for a user with a home directory.

## The model

The written lines are a document (`Says`) with the statements of three sections. The pairs of a section are those of
the settings that are set (`loopPairs`, `toolPairs`, `ifstatePairs`): a setting that is not has no line, so the
reader gives it its default. `withHistory` is the one place where this default is something else.

## What is proved

The written lines say the statements (`says_lines`), the statements come to the tables (`ofStatements_statements`),
and the tables to the settings (`ofEntries_tables`). So settings read back as they were, except that a history that
is kept nowhere reads back as one that is kept in the home directory (`read_written`).
-/

namespace RouterShell.Config

open Toml

/-! ### The written text -/

/-- Lines joined with line feeds, and one more at the end, each have their end. -/
theorem intercalate_newline {lines : List String} (h : lines ≠ []) :
    "\n".intercalate lines ++ "\n" = String.ofList (ended (lines.map String.toList)) := by
  have hjoin : ∀ (l : List Char) (ls : List (List Char)),
      ['\n'].intercalate (l :: ls) ++ ['\n'] = ended (l :: ls) := by
    intro l ls
    induction ls generalizing l with
    | nil => simp [ended]
    | cons l' ls ih =>
      rw [List.intercalate_cons_cons, List.append_assoc, List.append_assoc, ih]
      simp [ended]
  obtain ⟨l, ls, rfl⟩ := List.exists_cons_of_ne_nil h
  rw [← String.toList_inj, String.toList_append, String.toList_intercalate, List.map_cons, ← hjoin]
  exact (String.toList_ofList).symm

theorem toList_line (name value : String) :
    (line name value).toList = name.toList ++ (" = ".toList ++ value.toList) := by
  show (name ++ " = " ++ value).toList = _
  rw [String.toList_append, String.toList_append, List.append_assoc]

/-- The pair of a setting that need not be set. -/
def pair? (name : String) (value : Option String) : List (String × Toml) :=
  (value.map fun text => (name, .string text)).toList

/-- The settings of the interactive loop that are set. -/
def loopPairs (s : LoopSettings) : List (String × Toml) :=
  pair? "history_file" s.historyFile ++
    [("history_size", .integer s.historySize), ("prompt_suffix", .string s.promptSuffix)]

/-- The paths of tools that are set. -/
def toolPairs (s : ToolSettings) : List (String × Toml) :=
  pair? "ip" s.ip ++ pair? "bridge" s.bridge ++ pair? "ethtool" s.ethtool

/-- The settings of `ifstatecli`. -/
def ifstatePairs (s : IfstateSettings) : List (String × Toml) :=
  [("config_file", .string s.configFile), ("quiet", .boolean s.quiet), ("soft_schema", .boolean s.softSchema),
    ("verbose", .boolean s.verbose)]

/-- The statements of a configuration. -/
def statements (c : Config) : List Statement :=
  .header [] "shell" :: (loopPairs c.loop).map pairStatement ++
    (.header [] "tools" :: (toolPairs c.tools).map pairStatement ++
      .header ["command"] "ifstatecli" :: (ifstatePairs c.ifstate).map pairStatement)

section Lines

variable {name value : String} {v : Toml} {lines : List String} {sts : List Statement}

/-- Lines that are a document. -/
def Says (lines : List String) (sts : List Statement) : Prop := Document (lines.map String.toList) sts

theorem says_nil : Says [] [] := .nil

theorem Says.append {lines' : List String} {sts' : List Statement} (h : Says lines sts) (h' : Says lines' sts') :
    Says (lines ++ lines') (sts ++ sts') := by
  rw [Says, List.map_append]
  exact Document.append h h'

theorem Says.blank (h : Says lines sts) : Says ("" :: lines) sts := Document.blank h

theorem Says.line (hname : Bare name.toList) (hvalue : Written value.toList v) (h : Says lines sts) :
    Says (Config.line name value :: lines) (pairStatement (name, v) :: sts) := by
  rw [Says, List.map_cons, toList_line]
  exact .statement (.pair (key_of_bare hname) hvalue) h

theorem Says.header {text : String} (h : Says lines sts) (path : List String) (key : String)
    (hkey : Key key.toList (path ++ [name])) (hdepth : path.length + 1 < depthLimit)
    (htext : text.toList = '[' :: (key.toList ++ [']'])) : Says (text :: lines) (.header path name :: sts) := by
  rw [Says, List.map_cons, htext]
  exact .statement (.header hkey hdepth) h

theorem says_line? (name : String) (hname : Bare name.toList) (value : Option String) :
    Says (line? name value) ((pair? name value).map pairStatement) := by
  cases value with
  | none => exact says_nil
  | some text => exact .line hname (written_text text) says_nil

end Lines

/-- The section `shell`. -/
theorem says_loop {s : LoopSettings} (hsize : s.historySize ≤ maxWritten) :
    Says ("[shell]" :: (line? "history_file" s.historyFile ++
        [line "history_size" (toString s.historySize), line "prompt_suffix" (writeText s.promptSuffix)]))
      (.header [] "shell" :: (loopPairs s).map pairStatement) := by
  have hrange : isInRange s.historySize = true := by
    rw [maxWritten] at hsize
    simp only [isInRange, Bool.and_eq_true, decide_eq_true_eq]
    omega
  have hpairs : Says [line "history_size" (toString s.historySize), line "prompt_suffix" (writeText s.promptSuffix)]
      ([("history_size", .integer s.historySize), ("prompt_suffix", .string s.promptSuffix)].map pairStatement) :=
    .line (by decide) (written_nat hrange) (.line (by decide) (written_text _) says_nil)
  have hall := (says_line? "history_file" (by decide) s.historyFile).append hpairs
  rw [← List.map_append] at hall
  exact hall.header [] "shell" (key_of_bare (by decide)) (by decide) rfl

/-- The section `tools`, behind a blank line. -/
theorem says_tools (s : ToolSettings) :
    Says ("" :: "[tools]" :: (line? "ip" s.ip ++ line? "bridge" s.bridge ++ line? "ethtool" s.ethtool))
      (.header [] "tools" :: (toolPairs s).map pairStatement) := by
  have hall := ((says_line? "ip" (by decide) s.ip).append (says_line? "bridge" (by decide) s.bridge)).append
    (says_line? "ethtool" (by decide) s.ethtool)
  rw [← List.map_append, ← List.map_append] at hall
  exact (hall.header [] "tools" (key_of_bare (by decide)) (by decide) rfl).blank

/-- The section `command.ifstatecli`, behind a blank line. -/
theorem says_ifstate (s : IfstateSettings) :
    Says ["", "[command.ifstatecli]", line "config_file" (writeText s.configFile), line "quiet" (writeBool s.quiet),
        line "soft_schema" (writeBool s.softSchema), line "verbose" (writeBool s.verbose)]
      (.header ["command"] "ifstatecli" :: (ifstatePairs s).map pairStatement) := by
  have hname : Key "ifstatecli".toList ["ifstatecli"] := key_of_bare (by decide)
  have hkey : Key "command.ifstatecli".toList ["command", "ifstatecli"] := key_below "command" (by decide) hname
  have hpairs : Says [line "config_file" (writeText s.configFile), line "quiet" (writeBool s.quiet),
      line "soft_schema" (writeBool s.softSchema), line "verbose" (writeBool s.verbose)]
      ((ifstatePairs s).map pairStatement) :=
    .line (by decide) (written_text _) <| .line (by decide) (written_bool _) <|
      .line (by decide) (written_bool _) <| .line (by decide) (written_bool _) says_nil
  exact (hpairs.header ["command"] "command.ifstatecli" hkey (by decide) rfl).blank

/-- The written lines say the statements. -/
theorem says_lines {c : Config} (hsize : c.loop.historySize ≤ maxWritten) : Says c.lines c.statements := by
  have hall := (says_loop hsize).append ((says_tools c.tools).append (says_ifstate c.ifstate))
  simpa [Config.lines, statements] using hall

/-! ### The tables -/

theorem nodup_loopPairs (s : LoopSettings) : ((loopPairs s).map Prod.fst).Nodup := by
  cases h : s.historyFile <;> simp [loopPairs, pair?, h]

theorem nodup_toolPairs (s : ToolSettings) : ((toolPairs s).map Prod.fst).Nodup := by
  cases hip : s.ip <;> cases hbridge : s.bridge <;> cases hethtool : s.ethtool <;>
    simp [toolPairs, pair?, hip, hbridge, hethtool]

theorem nodup_ifstatePairs (s : IfstateSettings) : ((ifstatePairs s).map Prod.fst).Nodup := by
  simp [ifstatePairs]

/-- The table of a section with some pairs. -/
def tableOf (pairs : List (String × Toml)) : Toml := table false false (SortedMap.ofList pairs)

/-- The sections of a configuration that stand by themselves. -/
def ownTables (c : Config) : Entries :=
  SortedMap.insert "tools" (tableOf (toolPairs c.tools)) (SortedMap.insert "shell" (tableOf (loopPairs c.loop)) [])

/-- The sections of a configuration. -/
def tables (c : Config) : Entries :=
  SortedMap.insert "command" (table true false [("ifstatecli", tableOf (ifstatePairs c.ifstate))]) c.ownTables

theorem ofStatements_statements (c : Config) : ofStatements c.statements = some c.tables := by
  have hshell : Draft.empty.settle = some [] := rfl
  have htools : (Draft.mk [] (SortedMap.ofList (loopPairs c.loop)) (.table [] "shell")).settle =
      some (SortedMap.insert "shell" (tableOf (loopPairs c.loop)) []) := settle_table rfl
  have htoolsNew : (SortedMap.insert "shell" (tableOf (loopPairs c.loop)) []).find? "tools" = none := rfl
  have hcommand : (Draft.mk (SortedMap.insert "shell" (tableOf (loopPairs c.loop)) [])
      (SortedMap.ofList (toolPairs c.tools)) (.table [] "tools")).settle = some c.ownTables := settle_table htoolsNew
  have hcommandNew : c.ownTables.find? "command" = none := rfl
  -- each header puts the section before it into its place, and the end the last one
  rw [ofStatements, statements, List.foldlM_append, foldlM_section hshell rfl (nodup_loopPairs c.loop)]
  simp only [Option.bind_eq_bind, Option.bind_some]
  rw [List.foldlM_append, foldlM_section htools htoolsNew (nodup_toolPairs c.tools)]
  simp only [Option.bind_eq_bind, Option.bind_some]
  rw [foldlM_section_below hcommand hcommandNew (nodup_ifstatePairs c.ifstate), Option.bind_some]
  exact settle_below _ _ _ _

/-! ### The settings -/

section Settings

variable {α : Type} {entries : Entries} {name : String} {value : Toml} {read : Toml → Option α}

theorem setting_of_find? (h : entries.find? name = some value) (default : α) :
    setting entries name default read = read value := by
  rw [setting, h]

/-- A setting that need not be set has its default if it is not. -/
theorem setting_optional {text : Option String} (h : entries.find? name = text.map Toml.string)
    (default : Option String) : setting entries name default optionalText? = some (text.or default) := by
  rw [setting, h]
  cases text <;> rfl

end Settings

theorem find?_pair? (name : String) (text : Option String) (key : String) :
    (SortedMap.ofList (pair? name text)).find? key = if name = key then text.map Toml.string else none := by
  rw [SortedMap.find?_ofList]
  cases text <;> by_cases hkey : name = key <;> simp [pair?, hkey]

theorem loop?_pairs (default s : LoopSettings) :
    loop? default (tableOf (loopPairs s)) = some { s with historyFile := s.historyFile.or default.historyFile } := by
  have hfile : (SortedMap.ofList (loopPairs s)).find? "history_file" = s.historyFile.map Toml.string := by
    rw [loopPairs, SortedMap.find?_ofList_append, find?_pair?, SortedMap.find?_ofList]
    simp
  have hsize : (SortedMap.ofList (loopPairs s)).find? "history_size" = some (.integer s.historySize) := by
    rw [loopPairs, SortedMap.find?_ofList_append, SortedMap.find?_ofList]
    simp
  have hsuffix : (SortedMap.ofList (loopPairs s)).find? "prompt_suffix" = some (.string s.promptSuffix) := by
    rw [loopPairs, SortedMap.find?_ofList_append, SortedMap.find?_ofList]
    simp
  simp [loop?, section?, tableOf, setting_optional hfile, setting_of_find? hsize, setting_of_find? hsuffix, nat?, text?]

theorem tools?_pairs (default s : ToolSettings) :
    tools? default (tableOf (toolPairs s)) =
      some ⟨s.ip.or default.ip, s.bridge.or default.bridge, s.ethtool.or default.ethtool⟩ := by
  have hip : (SortedMap.ofList (toolPairs s)).find? "ip" = s.ip.map Toml.string := by
    simp [toolPairs, SortedMap.find?_ofList_append, find?_pair?]
  have hbridge : (SortedMap.ofList (toolPairs s)).find? "bridge" = s.bridge.map Toml.string := by
    simp [toolPairs, SortedMap.find?_ofList_append, find?_pair?]
  have hethtool : (SortedMap.ofList (toolPairs s)).find? "ethtool" = s.ethtool.map Toml.string := by
    simp [toolPairs, SortedMap.find?_ofList_append, find?_pair?]
  simp [tools?, section?, tableOf, setting_optional hip, setting_optional hbridge, setting_optional hethtool]

theorem ifstate?_pairs (default s : IfstateSettings) : ifstate? default (tableOf (ifstatePairs s)) = some s := by
  simp [ifstate?, section?, tableOf, ifstatePairs, setting, SortedMap.find?_ofList, text?, bool?]

/-- The settings with a file for the history if none is set. -/
def withHistory (home : String) (c : Config) : Config :=
  { c with loop := { c.loop with historyFile := c.loop.historyFile.or (Config.default home).loop.historyFile } }

theorem ofEntries_tables (home : String) (c : Config) :
    ofEntries (.default home) c.tables = some (c.withHistory home) := by
  have hshell : c.tables.find? "shell" = some (tableOf (loopPairs c.loop)) := by
    simp [tables, ownTables, SortedMap.find?_insert]
  have htools : c.tables.find? "tools" = some (tableOf (toolPairs c.tools)) := by
    simp [tables, ownTables, SortedMap.find?_insert]
  have hcommand : c.tables.find? "command" =
      some (table true false [("ifstatecli", tableOf (ifstatePairs c.ifstate))]) := by
    simp [tables, SortedMap.find?_insert]
  have hcommands : ∀ default, commands? default
      (table true false [("ifstatecli", tableOf (ifstatePairs c.ifstate))]) = some c.ifstate :=
    fun default => ifstate?_pairs default c.ifstate
  rw [ofEntries, setting_of_find? hshell, setting_of_find? htools, setting_of_find? hcommand, loop?_pairs,
    tools?_pairs, hcommands]
  simp [withHistory, Config.default]

theorem read_lines (home : String) {c : Config} (hsize : c.loop.historySize ≤ maxWritten) :
    read home ("\n".intercalate c.lines ++ "\n") = .ok (c.withHistory home) := by
  have hlines : c.lines ≠ [] := List.cons_ne_nil _ _
  rw [read, intercalate_newline hlines, read_document (says_lines hsize), ofStatements_statements, Option.bind_some,
    ofEntries_tables]

theorem withHistory_eq_self_iff {home : String} {c : Config} :
    c.withHistory home = c ↔ c.loop.historyFile.isSome = true := by
  obtain ⟨⟨file, size, suffix⟩, tools, ifstate⟩ := c
  cases file <;> simp [withHistory, Config.default]

/-- **Settings that are written read back**, whatever they are, with one exception: if no file is set for the
history, they read back with the one in the home directory. Only a history that is too long cannot be written. -/
theorem read_written (home : String) (c : Config) :
    (maxWritten < c.loop.historySize ∧ write c = .error .unwritableConfig) ∨
      ∃ text, write c = .ok text ∧ read home text = .ok (c.withHistory home) ∧
        (read home text = .ok c ↔ c.loop.historyFile.isSome = true) := by
  rcases Nat.lt_or_ge maxWritten c.loop.historySize with hlarge | hsize
  · exact Or.inl ⟨hlarge, if_neg (Nat.not_le_of_lt hlarge)⟩
  · refine Or.inr ⟨_, if_pos hsize, read_lines home hsize, ?_⟩
    rw [read_lines home hsize, Except.ok.injEq, withHistory_eq_self_iff]

/-- A history that is kept nowhere, written and read again, is kept in the home directory. -/
theorem unset_history_comes_back :
    ∃ text, write { Config.default "/root" with loop := ⟨none, 1000, "> "⟩ } = .ok text ∧
      read "/root" text = .ok (.default "/root") ∧
      Config.default "/root" ≠ { Config.default "/root" with loop := ⟨none, 1000, "> "⟩ } :=
  ⟨_, if_pos (by decide), read_lines "/root" (by decide), by decide⟩

end RouterShell.Config
