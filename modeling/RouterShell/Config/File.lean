import RouterShell.Config.Settings
import RouterShell.Error
import RouterShell.Toml.Reader
import RouterShell.Toml.Writer

/-!
# Configuration files

Settings are kept in TOML, in the sections `shell`, `tools` and `command.ifstatecli`. Settings that a
file does not mention keep their defaults, and what a file mentions beyond the settings is ignored.

A section may also be written as the array of its settings in order.

The file is found in this order: the one asked for, the one that a variable names, the one in the
user's directory of configurations. Only the last may be missing.
-/

namespace RouterShell.Config

/-! ### Reading -/

/-- The settings of a section by name. `known` are the names in order, for a section that is written
as an array. A date is a section without settings. -/
def section? (known : List String) : Toml → Option Toml.Entries
  | .inlineTable entries => some entries
  | .table _ _ entries => some entries
  | .array items => some (SortedMap.ofList (known.zip items))
  | .tables elements =>
    some (SortedMap.ofList (known.zip (elements.reverse.map (Toml.table false false))))
  | .date => some []
  | _ => none

/-- A setting of a section, or its default. -/
def setting {α : Type} (entries : Toml.Entries) (name : String) (default : α)
    (read : Toml → Option α) : Option α :=
  match entries.find? name with
  | none => some default
  | some value => read value

/-- A text. -/
def text? : Toml → Option String
  | .string text => some text
  | _ => none

/-- A text that need not be set. -/
def optionalText? (value : Toml) : Option (Option String) :=
  (text? value).map some

/-- A truth value. -/
def bool? : Toml → Option Bool
  | .boolean b => some b
  | _ => none

/-- A number from 0 on. -/
def nat? : Toml → Option Nat
  | .integer n => if 0 ≤ n then some n.toNat else none
  | _ => none

/-- The section `shell`. -/
def loop? (default : LoopSettings) (value : Toml) : Option LoopSettings := do
  let entries ← section? ["history_file", "history_size", "prompt_suffix"] value
  return {
    historyFile := ← setting entries "history_file" default.historyFile optionalText?
    historySize := ← setting entries "history_size" default.historySize nat?
    promptSuffix := ← setting entries "prompt_suffix" default.promptSuffix text? }

/-- The section `tools`. -/
def tools? (default : ToolSettings) (value : Toml) : Option ToolSettings := do
  let entries ← section? ["ip", "bridge", "ethtool"] value
  return {
    ip := ← setting entries "ip" default.ip optionalText?
    bridge := ← setting entries "bridge" default.bridge optionalText?
    ethtool := ← setting entries "ethtool" default.ethtool optionalText? }

/-- The section `command.ifstatecli`. -/
def ifstate? (default : IfstateSettings) (value : Toml) : Option IfstateSettings := do
  let entries ← section? ["config_file", "quiet", "soft_schema", "verbose"] value
  return {
    configFile := ← setting entries "config_file" default.configFile text?
    quiet := ← setting entries "quiet" default.quiet bool?
    softSchema := ← setting entries "soft_schema" default.softSchema bool?
    verbose := ← setting entries "verbose" default.verbose bool? }

/-- The section `command`. -/
def commands? (default : IfstateSettings) (value : Toml) : Option IfstateSettings := do
  let entries ← section? ["ifstatecli"] value
  setting entries "ifstatecli" default (ifstate? default)

/-- The settings in a table; `default` holds for those that are missing. -/
def ofEntries (default : Config) (entries : Toml.Entries) : Option Config := do
  return {
    loop := ← setting entries "shell" default.loop (loop? default.loop)
    tools := ← setting entries "tools" default.tools (tools? default.tools)
    ifstate := ← setting entries "command" default.ifstate (commands? default.ifstate) }

/-- The settings in a text, for a user with a home directory. -/
def read (home : String) (text : String) : Except ShellError Config :=
  match (Toml.read text).bind (ofEntries (.default home)) with
  | some config => .ok config
  | none => .error .badConfig

/-! ### Writing -/

/-- The greatest number that can be written. -/
def maxWritten : Nat := 0x7FFFFFFFFFFFFFFF

/-- A setting on a line of its own. -/
def line (name value : String) : String := s!"{name} = {value}"

/-- A setting on a line of its own, if it is set. -/
def line? (name : String) (value : Option String) : List String :=
  match value with
  | some text => [line name (Toml.writeText text)]
  | none => []

/-- The lines of a configuration. -/
def lines (c : Config) : List String :=
  ["[shell]"] ++
  line? "history_file" c.loop.historyFile ++
  [line "history_size" (toString c.loop.historySize),
    line "prompt_suffix" (Toml.writeText c.loop.promptSuffix),
    "",
    "[tools]"] ++
  line? "ip" c.tools.ip ++ line? "bridge" c.tools.bridge ++ line? "ethtool" c.tools.ethtool ++
  ["",
    "[command.ifstatecli]",
    line "config_file" (Toml.writeText c.ifstate.configFile),
    line "quiet" (Toml.writeBool c.ifstate.quiet),
    line "soft_schema" (Toml.writeBool c.ifstate.softSchema),
    line "verbose" (Toml.writeBool c.ifstate.verbose)]

/-- The text of a configuration. -/
def write (c : Config) : Except ShellError String :=
  if c.loop.historySize ≤ maxWritten then .ok ("\n".intercalate c.lines ++ "\n")
  else .error .unwritableConfig

/-! ### Finding the file -/

/-- The variable that names a configuration file. -/
def fileVariable : String := "ROSH_CONFIG"

/-- The user's directory of configurations. -/
def directory (vars : Variables) : String :=
  match (vars.find? "XDG_CONFIG_HOME").filter Path.isAbsolute with
  | some dir => dir
  | none => Path.join vars.home ".config"

/-- The configuration file in the user's directory. -/
def defaultPath (vars : Variables) : String :=
  Path.join (Path.join (directory vars) "rosh") "config.toml"

/-- The settings in a file. -/
def readFile (disk : Disk) (vars : Variables) (path : String) : Except ShellError Config :=
  match disk.readText path with
  | .error e => .error (.config (.unreadable path e))
  | .ok text => read vars.home text

/-- The settings of a user; `explicit` is the file asked for. -/
def load (disk : Disk) (vars : Variables) (explicit : Option String) : Except ShellError Config :=
  match explicit.or (vars.nonempty? fileVariable) with
  | some path => readFile disk vars path
  | none =>
    if disk.exists? (defaultPath vars) then readFile disk vars (defaultPath vars)
    else .ok (.default vars.home)

end RouterShell.Config
